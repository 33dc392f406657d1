import SchemaShift.Output.UnitSource
import SchemaShift.Proofs.Text.Integer
import SchemaShift.Text.Letters

/-!
# Names of units

Whatever a unit is called, its name becomes its letters and digits in lower case with one underscore
between words, and doing that twice changes nothing more. Behind the id of the unit they make an
identifier for its function and a name for its file that no unit with another id has.
-/

namespace SchemaShift.Output

open Text

/-! ### Words -/

def isSmall (c : Char) : Bool :=
  c.isLower || c.isDigit

/-- One or more words of small letters and digits, with one underscore between each two. -/
inductive Words : List Char → Prop
  | last {c : Char} (small : isSmall c = true) : Words [c]
  | next {c : Char} {cs : List Char} (small : isSmall c = true) (rest : Words cs) : Words (c :: cs)
  | gap {c : Char} {cs : List Char} (small : isSmall c = true) (rest : Words cs) :
    Words (c :: '_' :: cs)

/-- What is called snake case: small letters, digits and underscores, none of them at an end or next
to another one. -/
structure SnakeCase (cs : List Char) : Prop where
  shown : cs ≠ []
  chars : ∀ c ∈ cs, isSmall c = true ∨ c = '_'
  first : cs.head? ≠ some '_'
  last : cs.getLast? ≠ some '_'
  apart : ¬['_', '_'] <:+: cs

theorem ne_gap_of_isSmall {c : Char} (small : isSmall c = true) : c ≠ '_' := by
  rintro rfl
  cases small

theorem Words.snakeCase {cs : List Char} (words : Words cs) : SnakeCase cs := by
  induction words with
  | @last c small =>
    have other := ne_gap_of_isSmall small
    refine ⟨by simp, by simp [small], by simp [other], by simp [other], fun pair => ?_⟩
    have long := pair.length_le
    simp at long
  | @next c cs small rest ih =>
    have other := ne_gap_of_isSmall small
    obtain ⟨d, ds, rfl⟩ := List.exists_cons_of_ne_nil ih.shown
    refine ⟨by simp, ?_, by simp [other], ?_, ?_⟩
    · rw [List.forall_mem_cons]
      exact ⟨.inl small, ih.chars⟩
    · rw [List.getLast?_cons_cons]
      exact ih.last
    · rw [List.infix_cons_iff]
      rintro (front | inside)
      · exact other (List.cons_prefix_cons.1 front).1.symm
      · exact ih.apart inside
  | @gap c cs small rest ih =>
    have other := ne_gap_of_isSmall small
    obtain ⟨d, ds, rfl⟩ := List.exists_cons_of_ne_nil ih.shown
    refine ⟨by simp, ?_, by simp [other], ?_, ?_⟩
    · rw [List.forall_mem_cons, List.forall_mem_cons]
      exact ⟨.inl small, .inr rfl, ih.chars⟩
    · rw [List.getLast?_cons_cons, List.getLast?_cons_cons]
      exact ih.last
    · rw [List.infix_cons_iff, List.infix_cons_iff]
      rintro (front | second | inside)
      · exact other (List.cons_prefix_cons.1 front).1.symm
      · have head := (List.cons_prefix_cons.1 (List.cons_prefix_cons.1 second).2).1
        exact ih.first (by rw [← head]; rfl)
      · exact ih.apart inside

/-! ### The loop -/

theorem isSmall_toLower {c : Char} (word : isAsciiAlphanumeric c = true) :
    isSmall c.toLower = true := by
  have letters : ∀ place : Fin 26, isSmall (Char.ofNat (65 + place)).toLower = true := by decide
  rcases toLower_cases c with ⟨kept, small⟩ | ⟨place, rfl⟩
  · change (c.isUpper || c.isLower || c.isDigit) = true at word
    rw [small, Bool.false_or] at word
    rw [kept]
    exact word
  · exact letters place

theorem isAsciiAlphanumeric_of_isSmall {c : Char} (small : isSmall c = true) :
    isAsciiAlphanumeric c = true := by
  rw [isSmall] at small
  show (c.isUpper || c.isLower || c.isDigit) = true
  rw [Bool.or_assoc, small, Bool.or_true]

theorem toLower_of_isSmall {c : Char} (small : isSmall c = true) : c.toLower = c := by
  have letters : ∀ place : Fin 26, isSmall (Char.ofNat (65 + place)) = false := by decide
  rcases toLower_cases c with ⟨kept, -⟩ | ⟨place, rfl⟩
  · exact kept
  · rw [letters place] at small
    cases small

/-- Behind a word the loop goes on with the word, or with an underscore and another word. -/
theorem words_cons_snakeFrom (cs : List Char) {c : Char} (small : isSmall c = true) (gap : Bool) :
    Words (c :: snakeFrom true gap cs) := by
  induction cs generalizing c gap with
  | nil => exact .last small
  | cons d ds ih =>
    rw [snakeFrom]
    split
    · rename_i word
      have rest := ih (isSmall_toLower word) false
      cases gap with
      | false => exact .next small rest
      | true => exact .gap small rest
    · exact ih small true

theorem words_snakeFrom (cs : List Char) (gap : Bool) :
    snakeFrom false gap cs = [] ∨ Words (snakeFrom false gap cs) := by
  induction cs generalizing gap with
  | nil => exact .inl rfl
  | cons d ds ih =>
    rw [snakeFrom]
    split
    · rename_i word
      rw [Bool.and_false]
      exact .inr (words_cons_snakeFrom ds (isSmall_toLower word) false)
    · exact ih true

theorem snakeFrom_small {c : Char} (small : isSmall c = true) (cs : List Char)
    (started gap : Bool) : snakeFrom started gap (c :: cs) =
      (if gap && started then ['_'] else []) ++ c :: snakeFrom true false cs := by
  rw [snakeFrom, if_pos (isAsciiAlphanumeric_of_isSmall small), toLower_of_isSmall small]

theorem snakeFrom_words {cs : List Char} (words : Words cs) (started gap : Bool) :
    snakeFrom started gap cs = (if gap && started then ['_'] else []) ++ cs := by
  induction words generalizing started gap with
  | last small => rw [snakeFrom_small small, snakeFrom]
  | next small rest ih =>
    rw [snakeFrom_small small, ih]
    rfl
  | @gap c cs small rest ih =>
    have passed : snakeFrom true false ('_' :: cs) = snakeFrom true true cs := rfl
    rw [snakeFrom_small small, passed, ih]
    rfl

theorem words_snakeCase (name : String) : Words (snakeCase name).toList := by
  unfold snakeCase
  rcases words_snakeFrom name.toList false with none | words
  · rw [none]
    exact .next rfl (.next rfl (.next rfl (.last rfl)))
  · have shown := words.snakeCase.shown
    dsimp only
    rw [if_neg (by simp [shown]), String.toList_ofList]
    exact words

theorem snakeCase_of_words {s : String} (words : Words s.toList) : snakeCase s = s := by
  have shown := words.snakeCase.shown
  have same : snakeFrom false false s.toList = s.toList := snakeFrom_words words false false
  unfold snakeCase
  dsimp only
  rw [same, if_neg (by simp [shown]), String.ofList_toList]

/-! ### Letters -/

/-- The letters and digits of a text in lower case. -/
def letters (cs : List Char) : List Char :=
  (cs.filter isAsciiAlphanumeric).map Char.toLower

theorem letters_cons_of_pos {c : Char} (word : isAsciiAlphanumeric c = true) (cs : List Char) :
    letters (c :: cs) = c.toLower :: letters cs := by
  rw [letters, List.filter_cons_of_pos word, List.map_cons, letters]

theorem letters_cons_of_neg {c : Char} (other : ¬isAsciiAlphanumeric c = true) (cs : List Char) :
    letters (c :: cs) = letters cs := by
  rw [letters, List.filter_cons_of_neg other, letters]

theorem letters_snakeFrom (cs : List Char) (started gap : Bool) :
    letters (snakeFrom started gap cs) = letters cs := by
  induction cs generalizing started gap with
  | nil => rfl
  | cons c cs ih =>
    rw [snakeFrom]
    split
    · rename_i word
      have small := isSmall_toLower word
      have kept : letters (c.toLower :: snakeFrom true false cs) = letters (c :: cs) := by
        rw [letters_cons_of_pos (isAsciiAlphanumeric_of_isSmall small), ih,
          letters_cons_of_pos word, toLower_toLower]
      split
      · rw [List.singleton_append, letters_cons_of_neg (by decide), kept]
      · exact kept
    · rename_i other
      rw [ih, letters_cons_of_neg other]

/-- A name keeps its letters and digits. One without any is a `unit`. -/
theorem letters_snakeCase (name : String) :
    letters (snakeCase name).toList = letters name.toList ∨
      letters name.toList = [] ∧ snakeCase name = "unit" := by
  have kept := letters_snakeFrom name.toList false false
  unfold snakeCase
  rcases words_snakeFrom name.toList false with none | words
  · rw [none] at kept ⊢
    exact .inr ⟨kept.symm, rfl⟩
  · dsimp only
    rw [if_neg (by simp [words.snakeCase.shown]), String.toList_ofList]
    exact .inl kept

example : snakeCase "Add User-Email" = "add_user_email" ∧ snakeCase "---" = "unit" := by decide

/-! ### Identifiers -/

/-- The words that the language of the source keeps for itself. -/
def keywords : List String :=
  ["Self", "abstract", "as", "async", "await", "become", "box", "break", "const", "continue",
    "crate", "do", "dyn", "else", "enum", "extern", "false", "final", "fn", "for", "gen", "if",
    "impl", "in", "let", "loop", "macro", "match", "mod", "move", "mut", "override", "priv", "pub",
    "ref", "return", "self", "static", "struct", "super", "trait", "true", "try", "type", "typeof",
    "unsafe", "unsized", "use", "virtual", "where", "while", "yield"]

/-- An identifier of the source in ASCII: it begins with a letter or an underscore and goes on with
letters, digits and underscores, and is no keyword and no single underscore. -/
def isIdentifier (s : String) : Bool :=
  s.toList.head?.any (fun c => c.isAlpha || c == '_') &&
    s.toList.all (fun c => isAsciiAlphanumeric c || c == '_') &&
    s != "_" && !keywords.contains s

namespace UnitTemplate

theorem toList_functionName (t : UnitTemplate) : t.functionName.toList =
    'm' :: ((natText t.id.toNat).toList ++ '_' :: (snakeCase t.name).toList) := by
  simp [functionName]

theorem chars_functionName (t : UnitTemplate) :
    ∀ c ∈ t.functionName.toList, (isAsciiAlphanumeric c || c == '_') = true := by
  rw [toList_functionName, List.forall_mem_cons, List.forall_mem_append, List.forall_mem_cons]
  refine ⟨rfl, fun c member => ?_, rfl, fun c member => ?_⟩
  · simp [isAsciiAlphanumeric, isDigit_of_mem_natText member]
  · rcases (words_snakeCase t.name).snakeCase.chars c member with small | rfl
    · simp [isAsciiAlphanumeric_of_isSmall small]
    · rfl

/-- The first digit of the id keeps the name apart from every word without a digit there. -/
theorem functionName_ne (t : UnitTemplate) {word : String}
    (bare : word.toList[1]?.any Char.isDigit = false) : t.functionName ≠ word := by
  obtain ⟨digit, digits, id⟩ := List.exists_cons_of_ne_nil (natText_ne_nil t.id.toNat)
  have numeral : digit.isDigit = true := isDigit_of_mem_natText (id ▸ List.mem_cons_self)
  have second : t.functionName.toList[1]? = some digit := by
    rw [toList_functionName, id]
    rfl
  intro same
  rw [← same, second, Option.any_some, numeral] at bare
  cases bare

theorem isIdentifier_functionName (t : UnitTemplate) : isIdentifier t.functionName = true := by
  have bare : ∀ word ∈ "_" :: keywords, word.toList[1]?.any Char.isDigit = false := by decide
  rw [List.forall_mem_cons] at bare
  have letter : t.functionName.toList.head?.any (fun c => c.isAlpha || c == '_') = true := by
    rw [toList_functionName]
    rfl
  have unlisted : t.functionName ∉ keywords := fun listed =>
    t.functionName_ne (bare.2 _ listed) rfl
  simp only [isIdentifier, letter, List.all_eq_true.2 t.chars_functionName,
    bne_iff_ne.2 (t.functionName_ne bare.1), List.contains_eq_mem, unlisted, decide_false]
  rfl

theorem declared_functionName (t : UnitTemplate) : ∃ before after,
    t.source = before ++ ("pub fn " ++ t.functionName ++ "() -> Box<dyn MigrationUnit> \x7b\n") ++
      after := by
  unfold source
  generalize natText t.id.toNat = id, sourceLiteral t.name = name,
    sourceLiteral t.version = version, t.functionName = function,
    callLines "up" t.up = up, callLines "down" t.down = down
  refine ⟨"//! Migration " ++ id ++ ": " ++ t.name ++ " (" ++ t.version ++ ").\n" ++ "\n" ++
      "use ksql_migrate::prelude::*;\n" ++ "\n" ++
      "/// Builds migration " ++ id ++ " (" ++ t.name ++ ").\n" ++ "#[must_use]\n",
    "    Box::new(\n" ++ "        SqlMigration::new(" ++ id ++ ", " ++ name ++ ", " ++
      version ++ ")\n" ++ up ++ down ++ "    )\n" ++ "\x7d\n", ?_⟩
  simp only [String.append_assoc]

/-! ### Files -/

theorem toList_fileName (t : UnitTemplate) :
    t.fileName.toList = t.functionName.toList ++ ".rs".toList := by
  rw [fileName, String.toList_append]

theorem chars_fileName (t : UnitTemplate) :
    ∀ c ∈ t.fileName.toList, (isAsciiAlphanumeric c || c == '_' || c == '.') = true := by
  have ending : ".rs".toList.all (fun c => isAsciiAlphanumeric c || c == '_' || c == '.') = true :=
    by decide
  rw [toList_fileName, List.forall_mem_append]
  refine ⟨fun c member => ?_, List.all_eq_true.1 ending⟩
  rw [t.chars_functionName c member]
  rfl

/-- The digits in front of a file's name up to its first underscore are the id. -/
theorem takeWhile_fileName (t : UnitTemplate) :
    t.fileName.toList.tail.takeWhile Char.isDigit = (natText t.id.toNat).toList := by
  have digits : ∀ c ∈ (natText t.id.toNat).toList, c.isDigit = true :=
    fun _ member => isDigit_of_mem_natText member
  rw [toList_fileName, toList_functionName, List.cons_append, List.tail_cons, List.append_assoc,
    List.takeWhile_append_of_pos digits, List.cons_append, List.takeWhile_cons_of_neg (by decide),
    List.append_nil]

theorem id_of_fileName {t u : UnitTemplate} (same : t.fileName = u.fileName) : t.id = u.id := by
  have digits := t.takeWhile_fileName
  rw [same, takeWhile_fileName] at digits
  exact UInt64.toNat_inj.1 (natText_inj (String.toList_inj.1 digits.symm))

/-- The function of the unit has a name that the language of the source takes, and the file of the
unit has that name too. It stays in its directory and is no other unit's file. -/
structure SafelyNamed (t : UnitTemplate) : Prop where
  identifier : isIdentifier t.functionName = true
  declared : ∃ before after,
    t.source = before ++ ("pub fn " ++ t.functionName ++ "() -> Box<dyn MigrationUnit> \x7b\n") ++
      after
  file : t.fileName = t.functionName ++ ".rs"
  inside : '/' ∉ t.fileName.toList ∧ '\\' ∉ t.fileName.toList
  own : ∀ u : UnitTemplate, u.id ≠ t.id → u.fileName ≠ t.fileName

/-- Every name becomes snake case of its own letters, once and for all, and every template is named
safely by it. -/
theorem safelyNamed :
    (∀ name, SnakeCase (snakeCase name).toList ∧
        (letters (snakeCase name).toList = letters name.toList ∨
          letters name.toList = [] ∧ snakeCase name = "unit") ∧
        snakeCase (snakeCase name) = snakeCase name) ∧
      ∀ t : UnitTemplate, t.SafelyNamed := by
  refine ⟨fun name => ?names, fun t => ?templates⟩
  case names =>
    have words := words_snakeCase name
    exact ⟨words.snakeCase, letters_snakeCase name, snakeCase_of_words words⟩
  case templates =>
    have slash : '/' ∉ t.fileName.toList := by
      intro member
      have plain := t.chars_fileName _ member
      cases plain
    have backslash : '\\' ∉ t.fileName.toList := by
      intro member
      have plain := t.chars_fileName _ member
      cases plain
    exact {
      identifier := t.isIdentifier_functionName
      declared := t.declared_functionName
      file := rfl
      inside := ⟨slash, backslash⟩
      own := fun u other same => other (id_of_fileName same) }

end UnitTemplate

def emailTemplate (id : UInt64) : UnitTemplate :=
  { id, name := "Add User-Email", version := "0.2.0", up := [], down := [] }

theorem email_safelyNamed :
    (emailTemplate 7).SafelyNamed ∧ (emailTemplate 71).id ≠ (emailTemplate 7).id ∧
      (emailTemplate 71).fileName ≠ (emailTemplate 7).fileName := by
  have other : (emailTemplate 71).id ≠ (emailTemplate 7).id := by decide
  have named := UnitTemplate.safelyNamed.2 (emailTemplate 7)
  exact ⟨named, other, named.own _ other⟩

end SchemaShift.Output
