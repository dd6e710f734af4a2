import QueryConsole.Proofs.Template.Placeholder
/-!
# Templates in pieces

A template whose placeholders are names alone is a sequence of `Piece`s:
texts, written with their braces doubled, and placeholders. It is taken
apart into exactly these pieces (`ParsesAs.pieces`), so to fill it is to fill
one piece after another, up to the first placeholder that has no argument
(`fill_written`). What an argument puts in is not taken apart again. Where
every placeholder has its argument the template becomes the texts of its
pieces, and else it is kept as it is (`fillOrKeep_written`).
-/

namespace QueryConsole.Template

variable {arguments : Arguments} {nested : Text → Except Fault Text}

/-- A text with its braces doubled. -/
def doubled (t : Text) : Text :=
  t.flatMap fun p => if p = opening ∨ p = closing then [p, p] else [p]

/-- The argument that a name between braces asks for. No name asks for an
argument by its place, and there are none of these. -/
def given? (arguments : Arguments) (name : Text) : Option Value :=
  if name.isEmpty then none else arguments.lookup name

/-- A piece of a template. -/
inductive Piece
  | literal (t : Text)
  | field (name : Text)
  deriving DecidableEq, Repr

namespace Piece

/-- A piece as a template has it. -/
def written : Piece → Text
  | literal t => doubled t
  | field name => placeholder name

/-- A piece that was taken apart, before what was taken apart after it. -/
def markup : Piece → Markup → Markup
  | literal t, rest => t.foldr .literal rest
  | field name, rest => .field ⟨name, none, []⟩ rest

/-- What is put in for a piece. -/
def filled (arguments : Arguments) : Piece → Except Fault Text
  | literal t => .ok t
  | field name =>
    match given? arguments name with
    | some v => v.toText
    | none => .error .unfilled

/-- **A piece with a name alone**: a word, which every identifier is, or
nothing. -/
def IsSimple : Piece → Prop
  | literal _ => True
  | field name => name = [] ∨ Field.IsWord name

end Piece

/-! ## Taking apart -/

/-- A text that is taken apart in one way, however much fuel is left over. -/
def ParsesAs (t : Text) (m : Markup) : Prop :=
  ∀ fuel, t.length ≤ fuel → Markup.parseWith fuel t = m

namespace ParsesAs

variable {t rest name : Text} {m : Markup} {p : CodePoint}

theorem nil : ParsesAs [] .done := fun fuel _ => by
  rw [Markup.parseWith]

/-- It is enough to look at texts with fuel for one code point more. -/
theorem of_succ (h : ∀ fuel, t.length ≤ fuel → Markup.parseWith (fuel + 1) (p :: t) = m) :
    ParsesAs (p :: t) m := by
  intro fuel enough
  rw [List.length_cons] at enough
  obtain ⟨fuel, rfl⟩ : ∃ n, fuel = n + 1 := ⟨fuel - 1, by omega⟩
  exact h fuel (by omega)

/-- A brace that is doubled stands for itself. -/
theorem brace (h : ParsesAs rest m) (brace : p = opening ∨ p = closing) :
    ParsesAs (p :: p :: rest) (.literal p m) := by
  refine of_succ fun fuel enough => ?_
  have later := h fuel (Nat.le_of_succ_le enough)
  rcases brace with rfl | rfl
  · simp only [Markup.parseWith, if_true, later]
  · have other : closing ≠ opening := by decide
    simp only [Markup.parseWith, if_neg other, if_true, later]

/-- And so does any other code point. -/
theorem plain (h : ParsesAs rest m) (plain : ¬ (p = opening ∨ p = closing)) :
    ParsesAs (p :: rest) (.literal p m) := by
  refine of_succ fun fuel enough => ?_
  rw [not_or] at plain
  simp only [Markup.parseWith, if_neg plain.1, if_neg plain.2, h fuel enough]

theorem literal (h : ParsesAs rest m) (t : Text) :
    ParsesAs (doubled t ++ rest) (t.foldr .literal m) := by
  induction t with
  | nil => exact h
  | cons p t ih =>
    rw [doubled, List.flatMap_cons, List.append_assoc, List.foldr_cons]
    split
    · next braced => exact ih.brace braced
    · next free => exact ih.plain free

/-- A placeholder ends where its brace closes. -/
theorem field (h : ParsesAs rest m) (unbroken : name.all (fun p => !breaksWord p) = true) :
    ParsesAs (placeholder name ++ rest) (.field ⟨name, none, []⟩ m) := by
  have read : Field.read (name ++ closing :: rest) = _ := Field.read_word unbroken
  rw [placeholder, List.cons_append, List.cons_append, List.append_assoc, List.singleton_append]
  refine of_succ fun fuel enough => ?_
  have later := h fuel (by simp at enough; omega)
  cases name with
  | nil =>
    have other : closing ≠ opening := by decide
    rw [List.nil_append] at read ⊢
    simp only [Markup.parseWith, if_true, if_neg other, read, later]
  | cons p name =>
    have first : p ≠ opening := by
      simp only [List.all_cons, Bool.and_eq_true, breaksWord, Bool.not_eq_true',
        Bool.or_eq_false_iff, beq_eq_false_iff_ne] at unbroken
      exact unbroken.1.1.1.1.1
    rw [List.cons_append] at read ⊢
    simp only [Markup.parseWith, if_true, if_neg first, read, later]

/-- **A template is taken apart into its pieces.** -/
theorem pieces {pieces : List Piece} (simple : ∀ p ∈ pieces, p.IsSimple) :
    ParsesAs (pieces.flatMap Piece.written) (pieces.foldr Piece.markup .done) := by
  induction pieces with
  | nil => exact nil
  | cons piece pieces ih =>
    have later := ih fun p mem => simple p (List.mem_cons_of_mem _ mem)
    have first := simple piece List.mem_cons_self
    rw [List.flatMap_cons, List.foldr_cons]
    cases piece with
    | literal t => exact later.literal t
    | field name =>
      rcases first with rfl | word
      · exact later.field rfl
      · exact later.field word.unbroken

end ParsesAs

/-! ## Filling -/

/-- Text is put in as it is. -/
theorem fill_literals (t : Text) (rest : Markup) :
    (t.foldr Markup.literal rest).fill arguments nested =
      (rest.fill arguments nested).map (t ++ ·) := by
  induction t with
  | nil => cases h : rest.fill arguments nested <;> simp [h, Except.map]
  | cons p t ih =>
    rw [List.foldr_cons, Markup.fill, ih]
    cases rest.fill arguments nested <;> rfl

/-- A name asks for the argument that it is given, if any. -/
theorem resolve_name {name : Text} (h : name = [] ∨ Field.IsWord name) :
    Field.resolve arguments name =
      match given? arguments name with
      | some v => .ok (.value v)
      | none => .error .unfilled := by
  rcases h with rfl | word
  · rfl
  · rw [given?, word.nonempty, if_neg Bool.false_ne_true]
    exact Field.resolve_word word

/-- **A template is filled piece by piece.** -/
theorem fill_markup {pieces : List Piece} (simple : ∀ p ∈ pieces, p.IsSimple) :
    (pieces.foldr Piece.markup .done).fill arguments nested =
      (pieces.mapM (Piece.filled arguments)).map List.flatten := by
  induction pieces with
  | nil => rfl
  | cons piece pieces ih =>
    have later := ih fun p mem => simple p (List.mem_cons_of_mem _ mem)
    have first := simple piece List.mem_cons_self
    rw [List.foldr_cons, List.mapM_cons]
    cases piece with
    | literal t =>
      rw [Piece.markup, fill_literals, later, Piece.filled]
      cases pieces.mapM (Piece.filled arguments) <;> rfl
    | field name =>
      rw [Piece.markup, Markup.fill, resolve_name first, Piece.filled]
      cases given? arguments name with
      | none => rfl
      | some v =>
        have shown : Thing.format [] (.value v) = v.toText := by
          simp only [Thing.format, Value.format, List.isEmpty_nil, if_true]
        simp only [bind, Except.bind, Field.convert, List.contains_nil, Bool.false_eq_true,
          if_false, shown, later]
        cases v.toText with
        | error fault => rfl
        | ok t => cases pieces.mapM (Piece.filled arguments) <;> rfl

theorem fill_written {pieces : List Piece} (simple : ∀ p ∈ pieces, p.IsSimple) :
    fill arguments (pieces.flatMap Piece.written) =
      (pieces.mapM (Piece.filled arguments)).map List.flatten := by
  rw [fill, fillTo, Markup.parse, ParsesAs.pieces simple _ (Nat.le_refl _), fill_markup simple]

/-! ## All or nothing -/

/-- The text of a value, all digits of an integer included. -/
def Value.inFull : Value → Text
  | .text t => t
  | .int n => Text.ofInt n
  | .float x => x.text
  | .bool b => if b then "True" else "False"
  | .none => "None"

/-- A value that can be shown: an integer has at most 4300 digits. -/
def Value.IsShort : Value → Prop
  | .int n => (Digits.ofNat n.natAbs).length ≤ Value.maxIntegerDigits
  | _ => True

/-- An integer that can be written is written in full. -/
theorem Value.toText_int {n : Int}
    (short : (Digits.ofNat n.natAbs).length ≤ Value.maxIntegerDigits) :
    (Value.int n).toText = .ok (Text.ofInt n) := by
  rw [Value.toText, Value.intText, Value.decimalDigits, if_neg (Nat.not_lt.2 short)]
  cases n with
  | ofNat n => rfl
  | negSucc n =>
    rw [if_pos (Int.negSucc_lt_zero n)]
    rfl

theorem Value.toText_of_isShort {v : Value} (short : v.IsShort) : v.toText = .ok v.inFull := by
  cases v with
  | int n => exact Value.toText_int short
  | text _ | float _ | bool _ | none => rfl

namespace Piece

/-- Whether a piece has all that it needs: a placeholder has a name, and an
argument of that name. -/
def isGiven (arguments : Arguments) : Piece → Bool
  | literal _ => true
  | field name => (given? arguments name).isSome

/-- The text of a piece that has all that it needs. -/
def shown (arguments : Arguments) : Piece → Text
  | literal t => t
  | field name => ((given? arguments name).map Value.inFull).getD []

end Piece

variable {pieces : List Piece}

/-- The argument of a name is among the arguments. -/
theorem mem_of_given {name : Text} {v : Value} (given : given? arguments name = some v) :
    (name, v) ∈ arguments := by
  rw [given?] at given
  split at given
  · simp at given
  · obtain ⟨before, after, same, -⟩ := List.lookup_eq_some_iff.1 given
    simp [same]

/-- What is put in for a piece whose argument can be shown. -/
theorem Piece.filled_eq (short : ∀ a ∈ arguments, a.2.IsShort) (p : Piece) :
    p.filled arguments =
      if p.isGiven arguments then .ok (p.shown arguments) else .error .unfilled := by
  cases p with
  | literal t => rfl
  | field name =>
    rw [Piece.filled, Piece.isGiven, Piece.shown]
    cases given : given? arguments name with
    | none => rfl
    | some v => exact Value.toText_of_isShort (short (name, v) (mem_of_given given))

theorem mapM_filled (short : ∀ a ∈ arguments, a.2.IsShort) (pieces : List Piece) :
    pieces.mapM (Piece.filled arguments) =
      if pieces.all (Piece.isGiven arguments) then .ok (pieces.map (Piece.shown arguments))
      else .error .unfilled := by
  induction pieces with
  | nil => rfl
  | cons p pieces ih =>
    rw [List.mapM_cons, Piece.filled_eq short, ih, List.all_cons]
    cases p.isGiven arguments with
    | false => rfl
    | true => cases pieces.all (Piece.isGiven arguments) <;> rfl

/-- **What a template in pieces becomes**: the texts of its pieces if all of
them have what they need, and else the template. -/
def becomes (arguments : Arguments) (pieces : List Piece) : Text :=
  if pieces.all (Piece.isGiven arguments) then pieces.flatMap (Piece.shown arguments)
  else pieces.flatMap Piece.written

/-- **A template is filled altogether or not at all.** -/
theorem fillOrKeep_written (simple : ∀ p ∈ pieces, p.IsSimple)
    (short : ∀ a ∈ arguments, a.2.IsShort) :
    fillOrKeep arguments (pieces.flatMap Piece.written) = .ok (becomes arguments pieces) := by
  rw [fillOrKeep, fill_written simple, mapM_filled short, becomes]
  cases pieces.all (Piece.isGiven arguments) <;> simp [Except.map, List.flatMap_def]

/-- Arguments that no placeholder names have no part in it. -/
theorem becomes_congr {arguments' : Arguments}
    (same : ∀ name, .field name ∈ pieces → arguments'.lookup name = arguments.lookup name) :
    becomes arguments' pieces = becomes arguments pieces := by
  have each : ∀ p ∈ pieces, p.isGiven arguments' = p.isGiven arguments ∧
      p.shown arguments' = p.shown arguments := by
    intro p mem
    cases p with
    | literal t => exact ⟨rfl, rfl⟩
    | field name =>
      have given : given? arguments' name = given? arguments name := by
        rw [given?, given?, same name mem]
      rw [Piece.isGiven, Piece.isGiven, Piece.shown, Piece.shown, given]
      exact ⟨rfl, rfl⟩
  have all : pieces.all (Piece.isGiven arguments') = pieces.all (Piece.isGiven arguments) := by
    rw [Bool.eq_iff_iff, List.all_eq_true, List.all_eq_true]
    exact forall₂_congr fun p mem => by rw [(each p mem).1]
  have shown :
      pieces.flatMap (Piece.shown arguments') = pieces.flatMap (Piece.shown arguments) := by
    rw [List.flatMap_def, List.flatMap_def, List.map_congr_left fun p mem => (each p mem).2]
  rw [becomes, becomes, all, shown]

/-! ## Templates with one placeholder -/

/-- Whether a text has no braces. -/
def isPlain (t : Text) : Bool :=
  t.all fun p => p != opening && p != closing

/-- A text without braces is written as it is. -/
theorem doubled_of_isPlain {t : Text} (plain : isPlain t = true) : doubled t = t := by
  induction t with
  | nil => rfl
  | cons p t ih =>
    simp only [isPlain, List.all_cons, Bool.and_eq_true, bne_iff_ne] at plain
    obtain ⟨⟨notOpening, notClosing⟩, others⟩ := plain
    rw [doubled, List.flatMap_cons, if_neg (by simp [notOpening, notClosing])]
    exact congrArg (p :: ·) (ih others)

/-- A template without a placeholder is the text that it is. -/
theorem fill_plain {t : Text} (plain : isPlain t = true) : fill arguments t = .ok t := by
  have simple : ∀ p ∈ [Piece.literal t], p.IsSimple := by simp [Piece.IsSimple]
  have filled : fill arguments ([Piece.literal t].flatMap Piece.written) = _ := fill_written simple
  simpa [Piece.written, doubled_of_isPlain plain, List.mapM_cons, Piece.filled, bind, Except.bind,
    pure, Except.pure, Except.map] using filled

/-- **A template with one placeholder** is filled with the text of the
argument, and the text around it stays. -/
theorem fill_placeholder {before word after : Text} {v : Value} (h : Field.IsWord word)
    (plainBefore : isPlain before = true) (plainAfter : isPlain after = true)
    (given : arguments.lookup word = some v) :
    fill arguments (before ++ placeholder word ++ after) =
      v.toText.map fun shown => before ++ shown ++ after := by
  have simple : ∀ p ∈ [.literal before, .field word, .literal after], Piece.IsSimple p := by
    simp [Piece.IsSimple, h]
  have filled : fill arguments
      ([.literal before, .field word, .literal after].flatMap Piece.written) = _ :=
    fill_written simple
  have argument : given? arguments word = some v := by
    rw [given?, h.nonempty, if_neg Bool.false_ne_true, given]
  simp only [List.flatMap_cons, List.flatMap_nil, Piece.written, doubled_of_isPlain plainBefore,
    doubled_of_isPlain plainAfter, List.append_nil, List.mapM_cons, List.mapM_nil, Piece.filled,
    argument] at filled
  rw [List.append_assoc, filled]
  cases v.toText with
  | error fault => rfl
  | ok t => simp [bind, Except.bind, pure, Except.pure, Except.map]

end QueryConsole.Template
