import QueryConsole.Template.Format
/-!
# Placeholders that are words

A placeholder that is a word alone is read as its name (`read_word`), and the
name asks for the argument of that name (`resolve_word`). Every identifier is
a word; so is much else that has none of the code points that mean something
in a placeholder, and is no number.
-/

namespace QueryConsole.Template

/-- Whether a code point does something else in a placeholder than stand
in a word. -/
def breaksWord (p : CodePoint) : Bool :=
  p == opening || p == closing || p == .scalar ':' || p == .scalar '!' || Field.endsPart p

/-- A placeholder that is a word alone. -/
def placeholder (word : Text) : Text :=
  opening :: word ++ [closing]

variable {arguments : Arguments}

namespace Field

/-- Whether a name is no number, nor begins like one that is too large. -/
def isNoIndex (name : Text) : Bool :=
  match index? name with
  | .ok none => true
  | _ => false

/-- **A name that is a word**: there is something of it, nothing in it ends
it, and it is no number. -/
structure IsWord (word : Text) : Prop where
  nonempty : word.isEmpty = false
  unbroken : word.all (fun p => !breaksWord p) = true
  noIndex : isNoIndex word = true

instance (word : Text) : Decidable (IsWord word) :=
  decidable_of_iff
    (word.isEmpty = false ∧ word.all (fun p => !breaksWord p) = true ∧ isNoIndex word = true)
    ⟨fun ⟨h, h', h''⟩ => ⟨h, h', h''⟩, fun ⟨h, h', h''⟩ => ⟨h, h', h''⟩⟩

variable {word rest : Text}

theorem IsWord.index?_eq (h : IsWord word) : index? word = .ok none := by
  have noIndex := h.noIndex
  rw [isNoIndex] at noIndex
  split at noIndex
  · assumption
  · simp at noIndex

theorem readName_word (unbroken : word.all (fun p => !breaksWord p) = true) :
    readName false (word ++ closing :: rest) = .ok (word, closing, rest) := by
  induction word with
  | nil =>
    rw [List.nil_append, readName, if_neg (by decide), if_neg (by decide), if_pos (.inl rfl)]
  | cons p word ih =>
    rw [List.all_cons, Bool.and_eq_true] at unbroken
    obtain ⟨first, others⟩ := unbroken
    simp only [breaksWord, endsPart, Bool.not_eq_true', Bool.or_eq_false_iff,
      beq_eq_false_iff_ne] at first
    obtain ⟨⟨⟨⟨notOpening, notClosing⟩, notColon⟩, notMark⟩, -, notBracket⟩ := first
    rw [List.cons_append, readName, if_neg (by decide), if_neg notOpening,
      if_neg (by simp [notClosing, notColon, notMark]), beq_eq_false_iff_ne.2 notBracket]
    simp only [ih others]
    rfl

/-- A placeholder that is a word is read as its name. -/
theorem read_word (unbroken : word.all (fun p => !breaksWord p) = true) :
    read (word ++ closing :: rest) = .ok (⟨word, none, []⟩, rest) := by
  rw [read, readName_word unbroken]
  rfl

/-- The name asks for the argument of that name. -/
theorem resolve_word (h : IsWord word) :
    resolve arguments word =
      match arguments.lookup word with
      | some v => .ok (.value v)
      | none => .error .unfilled := by
  have whole : (word.takeWhile fun p => !endsPart p) = word := by
    rw [← List.append_nil word, List.takeWhile_append_of_pos]
    · rfl
    · intro p mem
      have unbroken := List.all_eq_true.1 h.unbroken p mem
      simp only [breaksWord, Bool.not_eq_true', Bool.or_eq_false_iff] at unbroken
      simp [unbroken.2]
  rw [resolve, whole, h.index?_eq]
  simp only [bind, Except.bind, h.nonempty, List.drop_length]
  cases arguments.lookup word with
  | none => rfl
  | some v => cases word <;> rfl

end Field

end QueryConsole.Template
