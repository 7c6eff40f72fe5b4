import Mathlib.Data.List.Basic
import SchemaDdl.Dialect.Builtin
import SchemaDdl.Statement

/-!
# What the statement of a sequence tells

The clauses of a sequence stand one behind the other with nothing but blanks between, and some are
left out.  Cut at its blanks, the statement gives the words of its clauses
(`Statement.flatten_eq_of_createSequence_eq`).  Read from the front, the next word tells whether a
clause is there, as nothing that may stand behind a clause starts as it does
(`Statement.clauses_inj`).  A type may be spelled as a keyword, it is only ever read behind AS.  So
the statement tells everything of the sequence but how an absent schema or type was written
(`Statement.createSequence_eq_iff`).
-/

namespace SchemaDdl

/-! ## Numbers as words -/

namespace Number

theorem isDigit_of_mem_decimal {n : Nat} {c : Char} (h : c ∈ (decimal n).toList) :
    c.isDigit = true := by
  rw [decimal, String.toList_ofList] at h
  exact Nat.isDigit_of_mem_toDigits (by decide) (by decide) h

theorem decimal_injective : Function.Injective decimal := by
  intro m n h
  have hdigits := String.ofList_injective h
  rw [← Nat.ofDigitChars_ten_toDigits (n := m), hdigits, Nat.ofDigitChars_ten_toDigits]

theorem decimal_ne_minus_append (n : Nat) (s : String) : decimal n ≠ "-" ++ s := by
  intro h
  have hminus : '-' ∈ (decimal n).toList := by simp [h, String.toList_append]
  exact absurd (isDigit_of_mem_decimal hminus) (by decide)

theorem signedDecimal_injective : Function.Injective signedDecimal := by
  intro m n h
  cases m with
  | ofNat m =>
    cases n with
    | ofNat n => exact congrArg Int.ofNat (decimal_injective h)
    | negSucc n => exact absurd h (decimal_ne_minus_append m _)
  | negSucc m =>
    cases n with
    | ofNat n => exact absurd h.symm (decimal_ne_minus_append n _)
    | negSucc n =>
      have hsucc := decimal_injective ((String.append_right_inj "-").1 h)
      rw [Nat.succ.inj hsucc]

theorem blank_not_mem_decimal (n : Nat) : ' ' ∉ (decimal n).toList := by
  intro h
  exact absurd (isDigit_of_mem_decimal h) (by decide)

theorem blank_not_mem_signedDecimal (n : Int) : ' ' ∉ (signedDecimal n).toList := by
  cases n with
  | ofNat n => exact blank_not_mem_decimal n
  | negSucc n => simpa [signedDecimal, String.toList_append] using blank_not_mem_decimal (n + 1)

end Number

/-! ## Texts as words -/

namespace Text

/-- Words with blanks between, where each group of words has its own blanks already. -/
theorem intercalate_map_intercalate {groups : List (List String)} (h : [] ∉ groups) :
    " ".intercalate (groups.map " ".intercalate) = " ".intercalate groups.flatten := by
  induction groups with
  | nil => rfl
  | cons words rest ih =>
    rw [List.mem_cons, not_or] at h
    cases rest with
    | nil => simp
    | cons next rest =>
      have hflatten : (next :: rest).flatten ≠ [] := by
        rw [List.flatten_ne_nil_iff]
        exact ⟨next, List.mem_cons_self, fun hnext => h.2 (by simp [hnext])⟩
      rw [List.map_cons, List.flatten_cons,
        String.intercalate_append_of_ne_nil (Ne.symm h.1) hflatten,
        String.intercalate_cons_of_ne_nil (by simp), ih h.2]

/-- Cutting at the blanks gives the words back. -/
theorem splitOn_intercalate_words {words : List String} (hne : words ≠ [])
    (h : ∀ w ∈ words, ' ' ∉ w.toList) :
    (" ".intercalate words).toList.splitOn ' ' = words.map String.toList := by
  rw [String.toList_intercalate]
  refine List.splitOn_intercalate ' ' ?_ (by simpa using hne)
  simpa using h

/-- A text without white space. -/
def Unspaced (t : String) : Prop :=
  ∀ c ∈ t.toList, isSpace c = false

instance (t : String) : Decidable (Unspaced t) :=
  List.decidableBAll (fun c => isSpace c = false) t.toList

theorem Unspaced.blank_not_mem {t : String} (h : Unspaced t) : ' ' ∉ t.toList := by
  intro hmem
  exact absurd (h ' ' hmem) (by decide)

/-- A text without white space and without a dot. -/
def Plain (t : String) : Prop :=
  Unspaced t ∧ '.' ∉ t.toList

instance (t : String) : Decidable (Plain t) :=
  inferInstanceAs (Decidable (Unspaced t ∧ '.' ∉ t.toList))

end Text

/-! ## Sequences of words -/

theorem Builtin.defaultSchema_plain (b : Builtin) : Text.Plain b.dialect.defaultSchema := by
  cases b <;> decide

namespace Sequence

open Text (nonBlank)

/-- The name, the schema and the type are single words, and the former two hold no dot; a schema or
type that is blank counts as absent. -/
structure Plain (s : Sequence) : Prop where
  name : Text.Plain s.name.name
  schema : ∀ t, nonBlank s.name.schema = some t → Text.Plain t
  dbType : ∀ t, nonBlank s.dbType = some t → Text.Unspaced t

namespace Plain

variable {s : Sequence} {defaultSchema : String}

theorem schemaOr (h : s.Plain) (hdefault : Text.Plain defaultSchema) :
    Text.Plain (s.name.schemaOr defaultSchema) := by
  unfold SequenceName.schemaOr
  cases hschema : nonBlank s.name.schema with
  | none => exact hdefault
  | some t => exact h.schema t hschema

theorem blank_not_mem_qualified (h : s.Plain) (hdefault : Text.Plain defaultSchema) :
    ' ' ∉ (s.name.qualified defaultSchema).toList := by
  have hschema := (h.schemaOr hdefault).1.blank_not_mem
  have hname := h.name.1.blank_not_mem
  simp [SequenceName.qualified, String.toList_append, hschema, hname]

/-- The one dot of a qualified name stands between the schema and the name. -/
theorem qualified_inj (h : s.Plain) (hdefault : Text.Plain defaultSchema) {name : SequenceName}
    (heq : s.name.qualified defaultSchema = name.qualified defaultSchema) :
    s.name.schemaOr defaultSchema = name.schemaOr defaultSchema ∧ s.name.name = name.name := by
  have hchars : (s.name.schemaOr defaultSchema).toList ++ '.' :: s.name.name.toList
      = (name.schemaOr defaultSchema).toList ++ '.' :: name.name.toList := by
    simpa [SequenceName.qualified, String.toList_append] using congrArg String.toList heq
  obtain ⟨hschema, -, hname⟩ := (List.append_cons_inj_of_notMem
    (h.schemaOr hdefault).2 h.name.2).1 hchars
  exact ⟨String.toList_inj.1 hschema, String.toList_inj.1 hname⟩

end Plain
end Sequence

namespace Statement

open Number (signedDecimal)
open Text (nonBlank)

/-! ## The words of each clause -/

/-- The words of a clause that is left out when it has no value. -/
def optionalWords (keywords : List String) (value : Option String) : List (List String) :=
  (value.map fun v => keywords ++ [v]).toList

def boundWords (keyword : String) : Option Int → List String
  | some n => [keyword, signedDecimal n]
  | none => ["NO", keyword]

def cycleWords : Option Bool → List (List String)
  | some true => [["CYCLE"]]
  | some false => [["NO", "CYCLE"]]
  | none => []

/-- The words of the statement of a sequence, clause by clause. -/
def sequenceWords (d : Dialect) (s : Sequence) : List (List String) :=
  ["CREATE", "SEQUENCE", s.name.qualified d.defaultSchema]
    :: optionalWords ["AS"] (nonBlank s.dbType)
    ++ optionalWords ["START", "WITH"] (s.start.map signedDecimal)
    ++ optionalWords ["INCREMENT", "BY"] (s.increment.map signedDecimal)
    ++ [boundWords "MINVALUE" s.minValue, boundWords "MAXVALUE" s.maxValue]
    ++ cycleWords s.cycle

theorem optionalClause_eq {keyword : String} {keywords : List String}
    (h : keyword = " ".intercalate keywords) (hne : keywords ≠ []) (value : Option String) :
    optionalClause keyword value = (optionalWords keywords value).map " ".intercalate := by
  cases value with
  | none => rfl
  | some v => simp [optionalClause, optionalWords, h, String.intercalate_append_of_ne_nil hne]

theorem boundClause_eq (keyword : String) (bound : Option Int) :
    boundClause keyword bound = " ".intercalate (boundWords keyword bound) := by
  cases bound with
  | none => rfl
  | some n => simp [boundClause, boundWords]

theorem cycleClause_eq (cycle : Option Bool) :
    cycleClause cycle = (cycleWords cycle).map " ".intercalate := by
  rcases cycle with _ | _ | _ <;> rfl

theorem createClause_eq (qualified : String) :
    "CREATE SEQUENCE " ++ qualified = " ".intercalate ["CREATE", "SEQUENCE", qualified] := by
  have hkeywords : "CREATE SEQUENCE " = "CREATE" ++ " " ++ ("SEQUENCE" ++ " ") := by decide
  rw [String.intercalate_cons_cons, String.intercalate_cons_cons, String.intercalate_singleton,
    ← String.append_assoc, hkeywords]

/-- Each clause is its words with blanks between. -/
theorem sequenceClauses_eq (d : Dialect) (s : Sequence) :
    sequenceClauses d s = (sequenceWords d s).map " ".intercalate := by
  have htype : ∀ value, optionalClause "AS" value
      = (optionalWords ["AS"] value).map " ".intercalate :=
    optionalClause_eq (by decide) (by simp)
  have hstart : ∀ value, optionalClause "START WITH" value
      = (optionalWords ["START", "WITH"] value).map " ".intercalate :=
    optionalClause_eq (by decide) (by simp)
  have hincrement : ∀ value, optionalClause "INCREMENT BY" value
      = (optionalWords ["INCREMENT", "BY"] value).map " ".intercalate :=
    optionalClause_eq (by decide) (by simp)
  simp only [sequenceClauses, sequenceWords, createClause_eq, htype, hstart, hincrement,
    boundClause_eq, cycleClause_eq, List.map_append, List.map_cons, List.map_nil]

theorem nil_not_mem_optionalWords {keywords : List String} (value : Option String) :
    [] ∉ optionalWords keywords value := by
  cases value <;> simp [optionalWords]

theorem nil_not_mem_sequenceWords (d : Dialect) (s : Sequence) : [] ∉ sequenceWords d s := by
  have hbound : ∀ keyword bound, [] ≠ boundWords keyword bound := by
    intro keyword bound
    cases bound <;> simp [boundWords]
  have hcycle : [] ∉ cycleWords s.cycle := by
    rcases s.cycle with _ | _ | _ <;> simp [cycleWords]
  simp [sequenceWords, nil_not_mem_optionalWords, hbound, hcycle]

/-- The statement of a sequence is its words with blanks between. -/
theorem createSequence_eq (d : Dialect) (s : Sequence) :
    createSequence d s = " ".intercalate (sequenceWords d s).flatten ++ ";" := by
  rw [createSequence, sequenceClauses_eq,
    Text.intercalate_map_intercalate (nil_not_mem_sequenceWords d s)]

/-! ## Where the words end -/

theorem blank_not_mem_optionalWords {keywords : List String} {value : Option String}
    (hkeywords : ∀ w ∈ keywords, ' ' ∉ w.toList) (hvalue : ∀ v, value = some v → ' ' ∉ v.toList) :
    ∀ w ∈ (optionalWords keywords value).flatten, ' ' ∉ w.toList := by
  cases value with
  | none => simp [optionalWords]
  | some v =>
    intro w hw
    simp only [optionalWords, Option.map_some, Option.toList_some, List.flatten_cons,
      List.flatten_nil, List.append_nil, List.mem_append, List.mem_singleton] at hw
    rcases hw with hw | rfl
    · exact hkeywords w hw
    · exact hvalue w rfl

theorem blank_not_mem_boundWords {keyword : String} (h : ' ' ∉ keyword.toList)
    (bound : Option Int) : ∀ w ∈ boundWords keyword bound, ' ' ∉ w.toList := by
  cases bound with
  | none => simpa [boundWords] using h
  | some n => simpa [boundWords] using ⟨h, Number.blank_not_mem_signedDecimal n⟩

theorem blank_not_mem_cycleWords (cycle : Option Bool) :
    ∀ w ∈ (cycleWords cycle).flatten, ' ' ∉ w.toList := by
  rcases cycle with _ | _ | _ <;> decide

/-- The words from the bounds on. -/
def wordsFromBounds (s : Sequence) : List String :=
  boundWords "MINVALUE" s.minValue
    ++ (boundWords "MAXVALUE" s.maxValue ++ (cycleWords s.cycle).flatten)

/-- The words from the increment on. -/
def wordsFromIncrement (s : Sequence) : List String :=
  (optionalWords ["INCREMENT", "BY"] (s.increment.map signedDecimal)).flatten ++ wordsFromBounds s

/-- The words from the start on. -/
def wordsFromStart (s : Sequence) : List String :=
  (optionalWords ["START", "WITH"] (s.start.map signedDecimal)).flatten ++ wordsFromIncrement s

theorem flatten_sequenceWords (d : Dialect) (s : Sequence) :
    (sequenceWords d s).flatten
      = ["CREATE", "SEQUENCE", s.name.qualified d.defaultSchema]
        ++ ((optionalWords ["AS"] (nonBlank s.dbType)).flatten ++ wordsFromStart s) := by
  simp [sequenceWords, wordsFromStart, wordsFromIncrement, wordsFromBounds]

theorem blank_not_mem_sequenceWords (b : Builtin) {s : Sequence} (h : s.Plain) :
    ∀ w ∈ (sequenceWords b.dialect s).flatten, ' ' ∉ w.toList := by
  have hvalue : ∀ (value : Option Int) v, value.map signedDecimal = some v → ' ' ∉ v.toList := by
    intro value v hv
    obtain ⟨n, -, rfl⟩ := Option.map_eq_some_iff.1 hv
    exact Number.blank_not_mem_signedDecimal n
  rw [flatten_sequenceWords]
  simp only [wordsFromStart, wordsFromIncrement, wordsFromBounds, List.forall_mem_append]
  refine ⟨?_, blank_not_mem_optionalWords (by decide) fun v hv => ?_,
    blank_not_mem_optionalWords (by decide) (hvalue _),
    blank_not_mem_optionalWords (by decide) (hvalue _), blank_not_mem_boundWords (by decide) _,
    blank_not_mem_boundWords (by decide) _, blank_not_mem_cycleWords _⟩
  · have hqualified := h.blank_not_mem_qualified b.defaultSchema_plain
    simpa using hqualified
  · exact (h.dbType v hv).blank_not_mem

/-- The statement tells its words. -/
theorem flatten_eq_of_createSequence_eq (b : Builtin) {s s' : Sequence} (hs : s.Plain)
    (hs' : s'.Plain) (h : createSequence b.dialect s = createSequence b.dialect s') :
    (sequenceWords b.dialect s).flatten = (sequenceWords b.dialect s').flatten := by
  have hne : ∀ s, (sequenceWords b.dialect s).flatten ≠ [] := by
    intro s
    simp [flatten_sequenceWords]
  rw [createSequence_eq, createSequence_eq, String.append_left_inj] at h
  have hsplit := congrArg (fun text => text.toList.splitOn ' ') h
  simp only [Text.splitOn_intercalate_words (hne _) (blank_not_mem_sequenceWords b hs),
    Text.splitOn_intercalate_words (hne _) (blank_not_mem_sequenceWords b hs')] at hsplit
  exact List.map_injective_iff.2 (fun _ _ => String.toList_inj.1) hsplit

/-! ## Which clauses the words are of -/

section Cancel

variable {keyword keyword' : String} {keywords rest rest' : List String}

theorem head?_optionalWords_append_ne (value : Option String) (h : keyword ≠ keyword')
    (hrest : rest.head? ≠ some keyword') :
    ((optionalWords (keyword :: keywords) value).flatten ++ rest).head? ≠ some keyword' := by
  cases value with
  | none => exact hrest
  | some v => simpa [optionalWords] using h

theorem head?_boundWords_append_ne (bound : Option Int) (h : keyword ≠ keyword')
    (hno : "NO" ≠ keyword') : (boundWords keyword bound ++ rest).head? ≠ some keyword' := by
  cases bound with
  | none => simpa [boundWords] using hno
  | some n => simpa [boundWords] using h

/-- What comes behind does not start as the clause does, so the first word tells whether the clause
is there. -/
theorem optionalWords_append_inj {v v' : Option String} (hrest : rest.head? ≠ some keyword)
    (hrest' : rest'.head? ≠ some keyword)
    (h : (optionalWords (keyword :: keywords) v).flatten ++ rest
      = (optionalWords (keyword :: keywords) v').flatten ++ rest') : v = v' ∧ rest = rest' := by
  cases v with
  | none =>
    cases v' with
    | none => exact ⟨rfl, h⟩
    | some v' =>
      -- then the rest of the first would start with the keyword
      have hhead : rest = (optionalWords (keyword :: keywords) (some v')).flatten ++ rest' := h
      rw [hhead] at hrest
      exact absurd rfl hrest
  | some v =>
    cases v' with
    | none =>
      have hhead : (optionalWords (keyword :: keywords) (some v)).flatten ++ rest = rest' := h
      rw [← hhead] at hrest'
      exact absurd rfl hrest'
    | some v' => simpa [optionalWords] using h

theorem boundWords_append_inj {bound bound' : Option Int} (hno : keyword ≠ "NO")
    (h : boundWords keyword bound ++ rest = boundWords keyword bound' ++ rest') :
    bound = bound' ∧ rest = rest' := by
  cases bound with
  | none =>
    cases bound' with
    | none => simpa [boundWords] using h
    | some n' => simp [boundWords, hno.symm] at h
  | some n =>
    cases bound' with
    | none => simp [boundWords, hno] at h
    | some n' => simpa [boundWords, Number.signedDecimal_injective.eq_iff] using h

theorem cycleWords_flatten_inj {cycle cycle' : Option Bool}
    (h : (cycleWords cycle).flatten = (cycleWords cycle').flatten) : cycle = cycle' := by
  rcases cycle with _ | _ | _ <;> rcases cycle' with _ | _ | _ <;>
    simp [cycleWords] at h ⊢

end Cancel

section Heads

variable (s : Sequence) {keyword : String} (hno : "NO" ≠ keyword) (hmin : "MINVALUE" ≠ keyword)

include hno hmin in
theorem head?_wordsFromBounds_ne : (wordsFromBounds s).head? ≠ some keyword :=
  head?_boundWords_append_ne s.minValue hmin hno

include hno hmin in
theorem head?_wordsFromIncrement_ne (h : "INCREMENT" ≠ keyword) :
    (wordsFromIncrement s).head? ≠ some keyword :=
  head?_optionalWords_append_ne _ h (head?_wordsFromBounds_ne s hno hmin)

include hno hmin in
theorem head?_wordsFromStart_ne (h : "INCREMENT" ≠ keyword) (hstart : "START" ≠ keyword) :
    (wordsFromStart s).head? ≠ some keyword :=
  head?_optionalWords_append_ne _ hstart (head?_wordsFromIncrement_ne s hno hmin h)

end Heads

/-- The words tell the clauses, from the type on. -/
theorem clauses_inj {s s' : Sequence}
    (h : (optionalWords ["AS"] (nonBlank s.dbType)).flatten ++ wordsFromStart s
      = (optionalWords ["AS"] (nonBlank s'.dbType)).flatten ++ wordsFromStart s') :
    nonBlank s.dbType = nonBlank s'.dbType ∧ s.start = s'.start ∧ s.increment = s'.increment ∧
      s.minValue = s'.minValue ∧ s.maxValue = s'.maxValue ∧ s.cycle = s'.cycle := by
  have hmap := Option.map_injective Number.signedDecimal_injective
  have hfromStart : ∀ s, (wordsFromStart s).head? ≠ some "AS" := fun s =>
    head?_wordsFromStart_ne s (by decide) (by decide) (by decide) (by decide)
  have hfromIncrement : ∀ s, (wordsFromIncrement s).head? ≠ some "START" := fun s =>
    head?_wordsFromIncrement_ne s (by decide) (by decide) (by decide)
  have hfromBounds : ∀ s, (wordsFromBounds s).head? ≠ some "INCREMENT" := fun s =>
    head?_wordsFromBounds_ne s (by decide) (by decide)
  -- one clause after the other comes off the front, each with what follows it the same
  obtain ⟨htype, h⟩ := optionalWords_append_inj (hfromStart s) (hfromStart s') h
  obtain ⟨hstart, h⟩ := optionalWords_append_inj (hfromIncrement s) (hfromIncrement s') h
  obtain ⟨hincrement, h⟩ := optionalWords_append_inj (hfromBounds s) (hfromBounds s') h
  obtain ⟨hmin, h⟩ := boundWords_append_inj (by decide) h
  obtain ⟨hmax, h⟩ := boundWords_append_inj (by decide) h
  exact ⟨htype, hmap hstart, hmap hincrement, hmin, hmax, cycleWords_flatten_inj h⟩

/-- Two sequences with plain names have one statement under a built-in dialect if and only if they
have the same name, the same schema, the default standing for an absent or blank one, the same type,
a blank one counting as none, and the same start, increment, bounds and cycle. -/
theorem createSequence_eq_iff (b : Builtin) {s s' : Sequence} (hs : s.Plain) (hs' : s'.Plain) :
    createSequence b.dialect s = createSequence b.dialect s' ↔
      s.name.name = s'.name.name ∧
      s.name.schemaOr b.dialect.defaultSchema = s'.name.schemaOr b.dialect.defaultSchema ∧
      nonBlank s.dbType = nonBlank s'.dbType ∧ s.start = s'.start ∧
      s.increment = s'.increment ∧ s.minValue = s'.minValue ∧ s.maxValue = s'.maxValue ∧
      s.cycle = s'.cycle := by
  constructor
  · intro h
    -- the statement is cut at its blanks, and the one word of the name at its dot
    have hwords := flatten_eq_of_createSequence_eq b hs hs' h
    rw [flatten_sequenceWords, flatten_sequenceWords] at hwords
    obtain ⟨hcreate, hclauses⟩ := List.append_inj hwords rfl
    simp only [List.cons.injEq, true_and, and_true] at hcreate
    obtain ⟨hschema, hname⟩ := hs.qualified_inj b.defaultSchema_plain hcreate
    exact ⟨hname, hschema, clauses_inj hclauses⟩
  · rintro ⟨hname, hschema, htype, hstart, hincrement, hmin, hmax, hcycle⟩
    rw [createSequence, createSequence, sequenceClauses, sequenceClauses, SequenceName.qualified,
      SequenceName.qualified, hname, hschema, htype, hstart, hincrement, hmin, hmax, hcycle]

end Statement

/-! ## A type that is spelled as a keyword -/

namespace Invoices

/-- A sequence with a type that could be taken for the start of a bound. -/
def numbers (schema type : Option String) : Sequence where
  name := { name := "invoice_numbers", schema }
  dbType := type
  start := some (-5)
  cycle := some false

theorem plain_numbers {schema type : Option String} (hschema : schema = none ∨ schema = some "dbo")
    (htype : type = some " " ∨ type = some "NO") : (numbers schema type).Plain := by
  have hname : Text.Plain "invoice_numbers" := by decide
  refine ⟨hname, fun t ht => ?_, fun t ht => ?_⟩
  · obtain ⟨hsome, -⟩ := Text.nonBlank_eq_some.1 ht
    rcases hschema with rfl | rfl <;> cases hsome
    decide
  · obtain ⟨hsome, hblank⟩ := Text.nonBlank_eq_some.1 ht
    rcases htype with rfl | rfl <;> cases hsome
    · exact absurd hblank (by decide)
    · decide

theorem createSequence_eq_iff_numbers :
    (numbers none (some "NO")).Plain ∧ (numbers (some "dbo") (some "NO")).Plain ∧
      (numbers none (some " ")).Plain ∧
      Statement.createSequence Builtin.mssql.dialect (numbers none (some "NO"))
        = Statement.createSequence Builtin.mssql.dialect (numbers (some "dbo") (some "NO")) ∧
      Statement.createSequence Builtin.mssql.dialect (numbers none (some "NO"))
        ≠ Statement.createSequence Builtin.mssql.dialect (numbers none (some " ")) := by
  have habsent : (numbers none (some "NO")).Plain := plain_numbers (.inl rfl) (.inr rfl)
  have hdeclared : (numbers (some "dbo") (some "NO")).Plain := plain_numbers (.inr rfl) (.inr rfl)
  have hblank : (numbers none (some " ")).Plain := plain_numbers (.inl rfl) (.inl rfl)
  refine ⟨habsent, hdeclared, hblank, ?_, fun h => ?_⟩
  · exact (Statement.createSequence_eq_iff .mssql habsent hdeclared).2 (by decide)
  · have htype := ((Statement.createSequence_eq_iff .mssql habsent hblank).1 h).2.2.1
    exact absurd htype (by decide)

end Invoices
end SchemaDdl
