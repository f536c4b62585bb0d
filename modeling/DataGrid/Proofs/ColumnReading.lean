import DataGrid.Proofs.ColumnTables
import DataGrid.Query.Column

/-! Which column a condition looks at. The text of an expression is a quoted name, or a quoted name with a path into
JSON behind it. The signs before a path do not occur outside the quotes of a name, so the text tells its column. -/

namespace DataGrid

open Sql

namespace Text

/-- What stands before the first sign that is outside of quotes. A doubled quote leaves the quotes and enters them
again. -/
def beforeSign (quote : Char) (signs : List Char) : (quoted : Bool) → List Char → List Char
  | _, [] => []
  | quoted, c :: rest =>
    if c = quote then c :: beforeSign quote signs (!quoted) rest
    else if c ∈ signs ∧ quoted = false then []
    else c :: beforeSign quote signs quoted rest

/-- Whether a text has its quotes in pairs and no sign outside of them: reading goes on behind it as if it were the
start. -/
def Closed (quote : Char) (signs chars : List Char) : Prop :=
  ∀ rest, beforeSign quote signs false (chars ++ rest) = chars ++ beforeSign quote signs false rest

section Closed
variable {quote : Char} {signs : List Char}

theorem Closed.nil : Closed quote signs [] := fun _ => rfl

theorem Closed.append {first second : List Char} (one : Closed quote signs first) (other : Closed quote signs second) :
    Closed quote signs (first ++ second) := by
  intro rest
  rw [List.append_assoc, one, other, List.append_assoc]

theorem Closed.plain {chars : List Char} (unquoted : quote ∉ chars) (unsigned : ∀ sign ∈ signs, sign ∉ chars) :
    Closed quote signs chars := by
  intro rest
  induction chars with
  | nil => rfl
  | cons c chars ih =>
    have name : c ≠ quote := fun same => unquoted (same ▸ .head _)
    have free : ¬(c ∈ signs ∧ false = false) := fun sign => unsigned c sign.1 (.head _)
    rw [List.cons_append, beforeSign, if_neg name, if_neg free,
      ih (fun member => unquoted (.tail _ member)) fun sign present member => unsigned sign present (.tail _ member)]
    rfl

variable (quote signs) in
theorem beforeSign_doubled (chars rest : List Char) :
    beforeSign quote signs true (chars.flatMap (fun c => if c = quote then [c, c] else [c]) ++ rest) =
      chars.flatMap (fun c => if c = quote then [c, c] else [c]) ++ beforeSign quote signs true rest := by
  induction chars with
  | nil => rfl
  | cons c chars ih =>
    by_cases same : c = quote
    · simpa [List.flatMap_cons, same, beforeSign] using ih
    · simpa [List.flatMap_cons, same, beforeSign] using ih

/-- A sign behind a closed text ends it. -/
theorem Closed.ends {chars rest : List Char} (closed : Closed quote signs chars)
    (signed : ∀ c ∈ rest.head?, c ∈ signs ∧ c ≠ quote) : beforeSign quote signs false (chars ++ rest) = chars := by
  rw [closed rest]
  cases rest with
  | nil => rw [beforeSign, List.append_nil]
  | cons c rest =>
    obtain ⟨sign, different⟩ := signed c rfl
    rw [beforeSign, if_neg different, if_pos ⟨sign, rfl⟩, List.append_nil]

theorem Closed.quoted (chars : List Char) :
    Closed quote signs (quote :: chars.flatMap (fun c => if c = quote then [c, c] else [c]) ++ [quote]) := by
  intro rest
  have inside := beforeSign_doubled quote signs chars (quote :: rest)
  simp only [List.cons_append, List.append_assoc, List.nil_append, beforeSign, if_pos, Bool.not_false, Bool.not_true]
    at inside ⊢
  rw [inside]

theorem Closed.intercalate {separator : List Char} {parts : List (List Char)} (between : Closed quote signs separator)
    (each : ∀ part ∈ parts, Closed quote signs part) : Closed quote signs (separator.intercalate parts) := by
  induction parts with
  | nil => exact .nil
  | cons first rest ih =>
    cases rest with
    | nil => simpa using each first (.head _)
    | cons second more =>
      rw [List.intercalate_cons_cons]
      exact ((each first (.head _)).append between).append (ih fun part member => each part (.tail _ member))

end Closed

end Text

namespace Sql

/-- The signs that come before a path into JSON. -/
def pathSigns : List Char := ['-', '#']

namespace Dialect

variable {dialect : Dialect}

/-- What is asked of the quotes of a database so that a name can be told from what stands behind it. -/
structure Delimits (dialect : Dialect) : Prop extends dialect.Separates where
  percent : dialect.quote ≠ '%'
  feed : dialect.quote ≠ '\n'
  sign : dialect.quote ∉ pathSigns

theorem all_delimit : ∀ dialect ∈ all, dialect.Delimits := by
  intro dialect member
  have separates := all_separate dialect member
  simp only [all, List.mem_cons, List.not_mem_nil, or_false] at member
  rcases member with rfl | rfl | rfl | rfl | rfl | rfl | rfl <;>
    exact ⟨separates, by decide, by decide, by decide⟩

theorem percent_doubled (delimits : dialect.Delimits) (chars : List Char) :
    dialect.percent (chars.flatMap fun c => if c = dialect.quote then [c, c] else [c]) =
      (dialect.percent chars).flatMap fun c => if c = dialect.quote then [c, c] else [c] := by
  rw [percent_eq, percent_eq]
  split
  · rw [List.flatMap_assoc, List.flatMap_assoc]
    congr 1
    funext c
    by_cases quote : c = dialect.quote
    · have other : dialect.quote ≠ '%' := delimits.percent
      simp [quote, other]
    · by_cases percent : c = '%' <;> simp [quote, percent, delimits.percent.symm]
  · rfl

theorem bare_legal {chars : List Char} (bare : dialect.needsQuotes chars = false) :
    ∀ c ∈ chars, isLegalChar c = true ∨ c = '\n' := by
  have legal : isLegal chars = true := by
    unfold needsQuotes at bare
    simp only [Bool.or_eq_false_iff, Bool.not_eq_false'] at bare
    exact bare.1.2
  intro c member
  unfold isLegal at legal
  split at legal
  · next rest ended =>
    have each : rest.reverse.all isLegalChar = true := (Bool.and_eq_true_iff.mp legal).2
    have placed : c ∈ '\n' :: rest := ended ▸ List.mem_reverse.mpr member
    rcases List.mem_cons.mp placed with feed | inside
    · exact .inr feed
    · exact .inl (List.all_eq_true.mp each c (List.mem_reverse.mpr inside))
  · exact .inl (List.all_eq_true.mp (Bool.and_eq_true_iff.mp legal).2 c member)

theorem sign_illegal : ∀ sign ∈ pathSigns, isLegalChar sign = false ∧ sign ≠ '\n' := by
  simp only [pathSigns, List.forall_mem_cons, List.not_mem_nil, IsEmpty.forall_iff, implies_true, and_true]
  decide

theorem segment_closed (delimits : dialect.Delimits) (chars : List Char) :
    Text.Closed dialect.quote pathSigns (dialect.segment chars) := by
  unfold segment
  split
  · rw [quoteSegment, percent_doubled delimits]
    exact .quoted _
  · next bare =>
    have legal := bare_legal (Bool.eq_false_iff.mpr bare)
    have apart {c : Char} (illegal : isLegalChar c = false) (other : c ≠ '\n') : c ∉ chars := by
      intro member
      rcases legal c member with fine | feed
      · rw [illegal] at fine
        cases fine
      · exact other feed
    exact .plain (apart delimits.illegal delimits.feed) fun sign member =>
      apart (sign_illegal sign member).1 (sign_illegal sign member).2

theorem identifier_closed (delimits : dialect.Delimits) (name : String) :
    Text.Closed dialect.quote pathSigns (dialect.identifier name).toList := by
  rw [identifier, String.toList_ofList, identifierChars]
  refine .intercalate (.plain ?_ ?_) ?_
  · simp [delimits.point]
  · simp [pathSigns]
  · simp only [List.forall_mem_map]
    exact fun part _ => segment_closed delimits part

/-- Whether a text starts with the sign of a path, if with anything. -/
def Follows (rest : String) : Prop := ∀ c ∈ rest.toList.head?, c ∈ pathSigns

/-- A name and what stands behind it are told apart: texts that are equal have the same name at their start. -/
theorem identifier_append_injective (delimits : dialect.Delimits) {first second rest others : String}
    (one : Follows rest) (other : Follows others)
    (same : dialect.identifier first ++ rest = dialect.identifier second ++ others) : first = second := by
  apply identifier_injective delimits.toSeparates
  apply String.toList_injective
  have ends {name rest : String} (follows : Follows rest) :
      Text.beforeSign dialect.quote pathSigns false (dialect.identifier name ++ rest).toList =
        (dialect.identifier name).toList := by
    rw [String.toList_append]
    refine (identifier_closed delimits name).ends fun c member => ⟨follows c member, ?_⟩
    rintro rfl
    exact delimits.sign (follows _ member)
  rw [← ends one, ← ends other, same]

end Dialect

namespace Adapter

theorem jsonPath_follows {adapter : Adapter} {name steps sql : String}
    (written : adapter.jsonPath name steps = .ok sql) :
    ∃ rest, Dialect.Follows rest ∧ sql = adapter.quoteIdentifier name ++ rest := by
  unfold jsonPath at written
  split at written
  · cases written
    refine ⟨_, ?_, String.append_assoc ..⟩
    simp [Dialect.Follows, pathSigns]
  · cases written
    refine ⟨_, ?_, String.append_assoc ..⟩
    simp [Dialect.Follows, pathSigns]
  · cases written

end Adapter

/-- Whether an expression is the column of this name or a path into it, as it is or lowered or cast. -/
inductive Expr.TakenFrom (adapter : Adapter) (name : String) : Expr → Prop where
  | column : TakenFrom adapter name (adapter.column name)
  | path {steps sql : String} (written : adapter.jsonPath name steps = .ok sql) :
      TakenFrom adapter name (.literal sql)
  | lower {inner : Expr} (taken : TakenFrom adapter name inner) : TakenFrom adapter name (.lower inner)
  | cast {inner : Expr} (type : String) (taken : TakenFrom adapter name inner) :
      TakenFrom adapter name (.cast inner type)

/-- Whether an expression may look at a column: text that is not known to be one column may look at any. -/
def Expr.Reads (adapter : Adapter) (name : String) (expression : Expr) : Prop :=
  ∀ other, expression.TakenFrom adapter other → other = name

section Taken
variable {adapter : Adapter} {first second name : String} {expression : Expr}

theorem Expr.TakenFrom.text {sql : String} (taken : (Expr.literal sql).TakenFrom adapter name) :
    ∃ rest, Dialect.Follows rest ∧ sql = adapter.quoteIdentifier name ++ rest := by
  cases taken with
  | column => exact ⟨"", by simp [Dialect.Follows], by simp⟩
  | path written => exact Adapter.jsonPath_follows written

/-- An expression is taken from one column at most. -/
theorem Expr.TakenFrom.unique (delimits : adapter.dialect.Delimits) (one : expression.TakenFrom adapter first)
    (other : expression.TakenFrom adapter second) : first = second := by
  induction expression with
  | literal sql =>
    obtain ⟨rest, follows, text⟩ := one.text
    obtain ⟨others, follows', text'⟩ := other.text
    exact Dialect.identifier_append_injective delimits follows follows' (text.symm.trans text')
  | column table name => cases one
  | lower inner ih =>
    cases one with
    | lower one =>
      cases other with
      | lower other => exact ih one other
  | cast inner type ih =>
    cases one with
    | cast _ one =>
      cases other with
      | cast _ other => exact ih one other

theorem Expr.TakenFrom.reads_iff (delimits : adapter.dialect.Delimits) (taken : expression.TakenFrom adapter first) :
    expression.Reads adapter name ↔ name = first := by
  constructor
  · exact fun reads => (reads first taken).symm
  · rintro rfl other found
    exact found.unique delimits taken

theorem Adapter.castText_taken (taken : expression.TakenFrom adapter name) :
    (adapter.castText expression).TakenFrom adapter name := by
  unfold Adapter.castText
  split
  · exact .cast _ taken
  · split
    · exact .cast _ taken
    · exact taken

end Taken

section Reads
variable (adapter : Adapter) (name : String)

/-- Whether a test may look at a column. Raw text may look at any. -/
def Atom.Reads : Atom → Prop
  | .truth _ => False
  | .compare left _ _ | .isTruth left _ | .isNull left _ | .member left _ _ | .regexp left _ _
  | .regexpLike left _ _ => left.Reads adapter name
  | .sameColumn left right => left.Reads adapter name ∨ right.Reads adapter name
  | .fragment _ => True

def Rows.Reads : Rows → Prop
  | .table _ => False
  | .joined _ _ left right => left.Reads adapter name ∨ right.Reads adapter name

namespace Cond

mutual

/-- Whether a condition may look at a column, in a subquery or outside. -/
def Reads : Cond → Prop
  | .atom test => test.Reads adapter name
  | .exists rows inner => rows.Reads adapter name ∨ inner.Reads
  | .group inner => inner.Reads
  | .joined _ terms => AnyReads terms

def AnyReads : List Cond → Prop
  | [] => False
  | cond :: rest => cond.Reads ∨ AnyReads rest

end

variable {adapter name}

theorem anyReads_iff {conds : List Cond} : AnyReads adapter name conds ↔ ∃ cond ∈ conds, cond.Reads adapter name := by
  induction conds with
  | nil => simp [AnyReads]
  | cons cond rest ih => rw [AnyReads, ih, List.exists_mem_cons_iff]

/-- Joined conditions look at what any of them looks at. -/
theorem reads_join (junction : Junction) (conds : List Cond) :
    (join junction conds).Reads adapter name ↔ ∃ cond ∈ conds, cond.Reads adapter name := by
  have hereditary : Hereditary fun cond => ¬ cond.Reads adapter name :=
    ⟨fun _ => Iff.rfl, fun _ _ => by rw [Reads, anyReads_iff]; push Not; rfl⟩
  rw [← not_iff_not, hereditary.join junction conds]
  push Not
  rfl

end Cond

end Reads

end Sql

end DataGrid
