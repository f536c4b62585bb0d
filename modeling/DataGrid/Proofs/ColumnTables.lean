import DataGrid.Proofs.SqlSkeleton
import DataGrid.Relation

/-! The table that a column is taken from. A column is spelled as its table and its name with a point between them, and
no two tables are spelled alike, so what stands before the last point tells the table. Which tables a condition names
decides where it can stand: in the `ON` of a join, or in a subquery. -/

namespace DataGrid

open Sql

namespace Text

theorem segments_single {separator : Char} {chars : List Char} (without : separator ∉ chars) :
    segments separator chars = [chars] := by
  induction chars with
  | nil => rfl
  | cons c rest ih =>
    have others : separator ∉ rest := fun member => without (.tail _ member)
    have different : c ≠ separator := fun same => without (same ▸ .head _)
    rw [segments, if_neg different, ih others]

theorem segments_intercalate {separator : Char} {parts : List (List Char)} (some : parts ≠ [])
    (without : ∀ part ∈ parts, separator ∉ part) : segments separator ([separator].intercalate parts) = parts := by
  induction parts with
  | nil => exact absurd rfl some
  | cons first rest ih =>
    have head := segments_single (without first (.head _))
    cases rest with
    | nil => simpa using head
    | cons second more =>
      have tail := ih (List.cons_ne_nil _ _) fun part member => without part (.tail _ member)
      rw [List.intercalate_cons_cons, List.append_assoc, List.singleton_append, segments_append, head, tail]
      rfl

theorem splitString_within (table name : String) (plain : '.' ∉ name.toList) :
    splitString '.' (table ++ "." ++ name) = splitString '.' table ++ [name] := by
  have chars : (table ++ "." ++ name).toList = table.toList ++ '.' :: name.toList := by simp
  rw [splitString, chars, segments_append, segments_single plain, List.map_append, splitString]
  simp

theorem intercalate_splitString (text : String) : ".".intercalate (splitString '.' text) = text := by
  apply String.toList_injective
  have chars : (splitString '.' text).map String.toList = segments '.' text.toList := by simp [splitString]
  rw [String.toList_intercalate, chars]
  exact intercalate_segments '.' text.toList

theorem splitString_ne_nil (separator : Char) (text : String) : splitString separator text ≠ [] := by
  simp [splitString, segments_ne_nil]

/-- A name behind a point is split off. -/
theorem splitLast_within (table name : String) (plain : '.' ∉ name.toList) :
    splitLast? '.' (table ++ "." ++ name) = some (table, name) := by
  have some := splitString_ne_nil '.' table
  have whole := intercalate_splitString table
  obtain ⟨before, last, listed⟩ := (List.eq_nil_or_concat (splitString '.' table)).resolve_left some
  rw [listed] at whole
  rw [splitLast?, splitString_within table name plain, listed]
  simpa using whole

/-- Doubling a character loses nothing. -/
theorem flatMap_doubled_injective (c : Char) :
    Function.Injective fun chars : List Char => chars.flatMap fun d => if d = c then [d, d] else [d] := by
  intro first second same
  induction first generalizing second with
  | nil =>
    cases second with
    | nil => rfl
    | cons d rest => by_cases doubled : d = c <;> simp [doubled] at same
  | cons d rest ih =>
    cases second with
    | nil => by_cases doubled : d = c <;> simp [doubled] at same
    | cons e others =>
      have heads : d = e := by by_cases one : d = c <;> by_cases other : e = c <;> simp_all
      subst heads
      have tails := List.append_cancel_left (show _ ++ _ = _ ++ _ from same)
      rw [ih tails]

theorem mem_flatMap_doubled (c d : Char) (chars : List Char) :
    d ∈ chars.flatMap (fun e => if e = c then [e, e] else [e]) ↔ d ∈ chars := by
  induction chars with
  | nil => rfl
  | cons e rest ih => by_cases same : e = c <;> simp [List.flatMap_cons, same, ih]

end Text

namespace Sql

/-- Whether the quotes of a database can be told from what stands between them and from the points of a name. -/
structure Dialect.Separates (dialect : Dialect) : Prop where
  illegal : isLegalChar dialect.quote = false
  point : dialect.quote ≠ '.'

theorem Dialect.all_separate : ∀ dialect ∈ all, dialect.Separates := by
  intro dialect member
  have quotes : dialect.quote = '"' ∨ dialect.quote = '\x60' := by
    simp only [all, List.mem_cons, List.not_mem_nil, or_false] at member
    rcases member with rfl | rfl | rfl | rfl | rfl | rfl | rfl <;>
      simp [standard, firebird, sqlite, postgresql, mysql, mariadb, oracle]
  rcases quotes with quote | quote <;> exact ⟨by rw [quote]; decide, by rw [quote]; decide⟩

namespace Dialect

variable {dialect : Dialect}

theorem percent_eq (dialect : Dialect) (chars : List Char) :
    dialect.percent chars =
      if dialect.doublesPercent then chars.flatMap fun c => if c = '%' then [c, c] else [c] else chars := by
  have doubled : (fun c : Char => if c = '%' then ['%', '%'] else [c]) = fun c => if c = '%' then [c, c] else [c] := by
    funext c
    split <;> simp_all
  rw [percent, doubled]

theorem percent_injective (dialect : Dialect) : Function.Injective dialect.percent := by
  intro first second same
  simp only [percent_eq] at same
  split at same
  · exact Text.flatMap_doubled_injective '%' same
  · exact same

theorem mem_percent {dialect : Dialect} {c : Char} {chars : List Char} : c ∈ dialect.percent chars ↔ c ∈ chars := by
  rw [percent_eq]
  split
  · exact Text.mem_flatMap_doubled '%' c chars
  · rfl

private theorem head_legal {chars : List Char} (bare : dialect.needsQuotes chars = false) :
    ∃ c rest, chars = c :: rest ∧ isLegalChar c = true := by
  have legal : isLegal chars = true := by
    unfold needsQuotes at bare
    simp only [Bool.or_eq_false_iff, Bool.not_eq_false'] at bare
    exact bare.1.2
  have each {body : List Char} (legal : (!body.isEmpty && body.all isLegalChar) = true) :
      ∃ c rest, body = c :: rest ∧ isLegalChar c = true := by
    cases body with
    | nil => cases legal
    | cons c rest => exact ⟨c, rest, rfl, by simp at legal; exact legal.1⟩
  unfold isLegal at legal
  split at legal
  · next ended =>
    obtain ⟨c, rest, same, first⟩ := each legal
    have whole : chars = (c :: rest) ++ ['\n'] := by
      rw [← List.reverse_reverse chars, ended, List.reverse_cons, same]
    exact ⟨c, rest ++ ['\n'], whole, first⟩
  · exact each legal

theorem segment_injective (separates : dialect.Separates) : Function.Injective dialect.segment := by
  have mixed {bare quoted : List Char} (plain : dialect.needsQuotes bare = false) :
      bare ≠ dialect.quoteSegment quoted := by
    intro same
    obtain ⟨c, rest, listed, legal⟩ := head_legal plain
    have quote : c = dialect.quote := List.head_eq_of_cons_eq (listed.symm.trans same)
    rw [quote, separates.illegal] at legal
    cases legal
  intro first second same
  unfold segment at same
  split at same <;> split at same
  · have inner := List.append_cancel_right (List.cons.inj same).2
    exact Text.flatMap_doubled_injective dialect.quote (percent_injective dialect inner)
  · next plain => exact absurd same.symm (mixed (Bool.eq_false_iff.mpr plain))
  · next plain _ => exact absurd same (mixed (Bool.eq_false_iff.mpr plain))
  · exact same

theorem not_mem_segment (separates : dialect.Separates) {chars : List Char} (without : '.' ∉ chars) :
    '.' ∉ dialect.segment chars := by
  unfold segment
  split
  · simp only [quoteSegment, List.cons_append, List.mem_cons, List.mem_append, mem_percent,
      Text.mem_flatMap_doubled, separates.point.symm, without, List.not_mem_nil, or_self, not_false_eq_true]
  · exact without

/-- Two names are never quoted alike. -/
theorem identifier_injective (separates : dialect.Separates) : Function.Injective dialect.identifier := by
  intro first second same
  have quoted (name : String) : Text.segments '.' (dialect.identifierChars name.toList) =
      (Text.segments '.' name.toList).map dialect.segment := by
    apply Text.segments_intercalate
    · simp [Text.segments_ne_nil]
    · simp only [List.forall_mem_map]
      exact fun part member => not_mem_segment separates (Text.not_mem_segments '.' _ part member)
  have chars : dialect.identifierChars first.toList = dialect.identifierChars second.toList := by
    simpa [identifier] using congrArg String.toList same
  have parts : Text.segments '.' first.toList = Text.segments '.' second.toList := by
    apply (List.map_injective_iff.mpr (segment_injective separates))
    rw [← quoted, ← quoted, chars]
  apply String.toList_injective
  rw [← Text.intercalate_segments '.' first.toList, parts, Text.intercalate_segments]

/-- A name without points is quoted without points. -/
theorem not_mem_identifier (separates : dialect.Separates) {name : String} (plain : '.' ∉ name.toList) :
    '.' ∉ (dialect.identifier name).toList := by
  have single : Text.segments '.' name.toList = [name.toList] := Text.segments_single plain
  simpa [identifier, identifierChars, single] using not_mem_segment separates plain

end Dialect

/-- The table that a column is taken from, as it is spelled. Text that is no name behind a point has none. -/
def Expr.owner? (adapter : Adapter) : Expr → Option String
  | .literal sql => (Text.splitLast? '.' sql).map Prod.fst
  | .column table _ => some (adapter.quoteIdentifier table)
  | .lower inner | .cast inner _ => inner.owner? adapter

/-- A column of a table is taken from that table. -/
theorem Adapter.owner_column {adapter : Adapter} (separates : adapter.dialect.Separates) (table : String)
    {name : String} (plain : '.' ∉ name.toList) :
    (adapter.column (table ++ "." ++ name)).owner? adapter = some (adapter.quoteIdentifier table) := by
  rw [column, quoteIdentifier_within, Expr.owner?, Text.splitLast_within]
  · rfl
  · exact Dialect.not_mem_identifier separates plain

def Rows.tables : Rows → List String
  | .table name => [name]
  | .joined name other _ _ => [name, other]

namespace Cond

/-- A property that a group has as its condition has it, and a list when each of its terms has it. -/
structure Hereditary (holds : Cond → Prop) : Prop where
  group (inner : Cond) : holds (.group inner) ↔ holds inner
  joined (junction : Junction) (terms : List Cond) : holds (.joined junction terms) ↔ ∀ term ∈ terms, holds term

namespace Hereditary
variable {holds : Cond → Prop}

theorem core (hereditary : Hereditary holds) (cond : Cond) : holds cond.core ↔ holds cond := by
  fun_induction Cond.core cond with
  | case1 inner ih => exact ih.trans (hereditary.group inner).symm
  | case2 cond _ => rfl

theorem shield (hereditary : Hereditary holds) (junction : Junction) (cond : Cond) :
    holds (cond.shield junction) ↔ holds cond := by
  unfold Cond.shield
  split
  · exact hereditary.group _
  · exact hereditary.group _
  · exact hereditary.group _
  · split
    · exact hereditary.group _
    · rfl
  · rfl

theorem termsOf (hereditary : Hereditary holds) (junction : Junction) (cond : Cond) :
    (∀ term ∈ Cond.termsOf junction cond, holds term) ↔ holds cond := by
  have single : (∀ term ∈ [Cond.shield junction cond], holds term) ↔ holds cond := by
    rw [List.forall_mem_singleton, hereditary.shield]
  unfold Cond.termsOf
  split
  · next inner terms found =>
    split
    · rw [← hereditary.core cond, found]
      exact (hereditary.joined inner terms).symm
    · exact single
  · exact single

/-- Joined conditions have the property when each of them has it. -/
theorem join (hereditary : Hereditary holds) (junction : Junction) (conds : List Cond) :
    holds (Cond.join junction conds) ↔ ∀ cond ∈ conds, holds cond := by
  unfold Cond.join
  split
  · simp
  · rw [hereditary.joined, List.forall_mem_flatMap]
    exact forall₂_congr fun cond _ => hereditary.termsOf junction cond

end Hereditary

end Cond

section Names
variable (adapter : Adapter)

def Expr.NamesOnly (tables : List String) (expression : Expr) : Prop :=
  ∃ table ∈ tables, expression.owner? adapter = some (adapter.quoteIdentifier table)

instance (tables : List String) (expression : Expr) : Decidable (expression.NamesOnly adapter tables) :=
  inferInstanceAs (Decidable (∃ table ∈ tables, _ = _))

/-- Whether a test looks at columns of the given tables only. Raw text cannot be looked into. -/
def Atom.NamesOnly (tables : List String) : Atom → Prop
  | .truth _ => True
  | .compare left _ _ | .isTruth left _ | .isNull left _ | .member left _ _ | .regexp left _ _
  | .regexpLike left _ _ => left.NamesOnly adapter tables
  | .sameColumn left right => left.NamesOnly adapter tables ∧ right.NamesOnly adapter tables
  | .fragment _ => False

def Rows.NamesOnly (tables : List String) : Rows → Prop
  | .table _ => True
  | .joined _ _ left right => left.NamesOnly adapter tables ∧ right.NamesOnly adapter tables

namespace Cond

mutual

/-- Whether a condition names columns of the given tables only; a subquery may name its own besides. -/
def NamesOnly (tables : List String) : Cond → Prop
  | .atom test => test.NamesOnly adapter tables
  | .exists rows inner => rows.NamesOnly adapter (rows.tables ++ tables) ∧ inner.NamesOnly (rows.tables ++ tables)
  | .group inner => inner.NamesOnly tables
  | .joined _ terms => AllNameOnly tables terms

def AllNameOnly (tables : List String) : List Cond → Prop
  | [] => True
  | cond :: rest => cond.NamesOnly tables ∧ AllNameOnly tables rest

end

variable {adapter} {tables more : List String}

theorem allNameOnly_iff {conds : List Cond} :
    AllNameOnly adapter tables conds ↔ ∀ cond ∈ conds, cond.NamesOnly adapter tables := by
  induction conds with
  | nil => simp [AllNameOnly]
  | cons cond rest ih => rw [AllNameOnly, ih, List.forall_mem_cons]

/-- Joined conditions name what each of them names. -/
theorem namesOnly_join (junction : Junction) (conds : List Cond) :
    (join junction conds).NamesOnly adapter tables ↔ ∀ cond ∈ conds, cond.NamesOnly adapter tables := by
  have hereditary : Hereditary fun cond => cond.NamesOnly adapter tables :=
    ⟨fun _ => Iff.rfl, fun _ _ => allNameOnly_iff⟩
  exact hereditary.join junction conds

end Cond

theorem Expr.NamesOnly.mono {adapter : Adapter} {tables more : List String} {expression : Expr}
    (names : expression.NamesOnly adapter tables) (within : tables ⊆ more) : expression.NamesOnly adapter more := by
  obtain ⟨table, member, owner⟩ := names
  exact ⟨table, within member, owner⟩

theorem Atom.NamesOnly.mono {adapter : Adapter} {tables more : List String} {atom : Atom}
    (names : atom.NamesOnly adapter tables) (within : tables ⊆ more) : atom.NamesOnly adapter more := by
  cases atom with
  | truth flag => trivial
  | sameColumn left right => exact ⟨Expr.NamesOnly.mono names.1 within, Expr.NamesOnly.mono names.2 within⟩
  | fragment content => exact names.elim
  | _ => exact Expr.NamesOnly.mono names within

mutual

theorem Cond.NamesOnly.mono {adapter : Adapter} {tables more : List String} {cond : Cond}
    (names : cond.NamesOnly adapter tables) (within : tables ⊆ more) : cond.NamesOnly adapter more := by
  match cond with
  | .atom test => exact Atom.NamesOnly.mono names within
  | .exists rows inner =>
    have wider : rows.tables ++ tables ⊆ rows.tables ++ more :=
      List.append_subset.mpr ⟨List.subset_append_left .., List.subset_append_of_subset_right _ within⟩
    refine ⟨?_, Cond.NamesOnly.mono names.2 wider⟩
    cases rows with
    | table name => trivial
    | joined name other left right => exact ⟨names.1.1.mono wider, names.1.2.mono wider⟩
  | .group inner =>
    have inside : inner.NamesOnly adapter tables := names
    exact inside.mono within
  | .joined junction terms =>
    have inside : Cond.AllNameOnly adapter tables terms := names
    exact inside.mono within

theorem Cond.AllNameOnly.mono {adapter : Adapter} {tables more : List String} {conds : List Cond}
    (names : Cond.AllNameOnly adapter tables conds) (within : tables ⊆ more) :
    Cond.AllNameOnly adapter more conds := by
  match conds with
  | [] => trivial
  | cond :: rest => exact ⟨Cond.NamesOnly.mono names.1 within, Cond.AllNameOnly.mono names.2 within⟩

end

end Names

end Sql

end DataGrid
