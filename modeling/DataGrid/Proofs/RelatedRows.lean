import DataGrid.Proofs.JoinRuns
import DataGrid.Proofs.RowScope

/-! Which rows a search along a path of relations is true of: those from which related rows lead to one with the
condition that is searched for. The keys of a row are looked up by the name of its table, which a relation to the same
table hides; then they are taken from the related row instead. -/

namespace DataGrid

open Sql

variable {Cell : Type}

/-- Whether a test is one operand whose value is its truth in a row, as that of no subquery is. -/
structure Sql.Atom.Direct (test : Atom) (reader : Reader) : Prop where
  structured : (Cond.atom test).Test
  value : ∀ assignment, (Cond.atom test).value reader assignment = assignment.predicate (.test test)

theorem Sql.Atom.Direct.safe {test : Atom} {reader : Reader} (direct : test.Direct reader) :
    (Cond.atom test).Safe reader := direct.structured.safe reader

theorem Sql.Atom.sameColumn_direct (left right : Expr) (reader : Reader) : (Atom.sameColumn left right).Direct reader :=
  ⟨trivial, fun _ => rfl⟩

namespace Relation

section Rows
variable (contents : Contents Cell) (adapter : Adapter)

/-- The rows that a relation can bring in, that of a pivot table behind the related one. -/
def brings : Relation → List (List (Frame Cell))
  | belongsToMany table pivot .. =>
    (contents.rows table ×ˢ contents.rows pivot).map fun (row, between) => [⟨table, row⟩, ⟨pivot, between⟩]
  | relation => (contents.rows relation.table).map fun row => [⟨relation.table, row⟩]

/-- Whether the rows of a relation belong to a row: the keys of that row are looked up `outside`, where it stands, and
those of the others `inside`, where they stand too. -/
def Meets (outside inside : List (Frame Cell)) (relation : Relation) : Prop :=
  let meet (related own : String) := contents.equal (contents.cell adapter inside (adapter.column related))
    (contents.cell adapter outside (adapter.column own)) = .yes
  match relation with
  | belongsTo _ foreignKey ownerKey => meet ownerKey foreignKey
  | hasMany _ foreignKey localKey => meet foreignKey localKey
  | belongsToMany _ _ parentKey pivotParentKey pivotRelatedKey relatedKey =>
    meet pivotParentKey parentKey ∧ contents.equal (contents.cell adapter inside (adapter.column pivotRelatedKey))
      (contents.cell adapter inside (adapter.column relatedKey)) = .yes
  | polymorphic _ foreignKey otherKey _ _ =>
    meet foreignKey otherKey ∧
      ∀ test ∈ relation.morphCondition? adapter, contents.truth (contents.cell adapter inside) test = .yes

instance (outside inside : List (Frame Cell)) : (relation : Relation) →
    Decidable (relation.Meets contents adapter outside inside)
  | belongsTo .. => inferInstanceAs (Decidable (_ = _))
  | hasMany .. => inferInstanceAs (Decidable (_ = _))
  | belongsToMany .. => inferInstanceAs (Decidable (_ = _ ∧ _ = _))
  | polymorphic .. => inferInstanceAs (Decidable (_ = _ ∧ ∀ test ∈ _, _ = _))

/-- Whether rows that belong to each other along relations lead from a scope to one of which something holds. Where the
keys of a row are `captured`, they are looked up among the rows that are brought in as well. -/
def Reaches (captured : Bool) (holds : List (Frame Cell) → Prop) : List (Frame Cell) → List Relation → Prop
  | scope, [] => holds scope
  | scope, relation :: rest => ∃ frames ∈ relation.brings contents,
      relation.Meets contents adapter (if captured then frames ++ scope else scope) (frames ++ scope) ∧
        Reaches captured holds (frames ++ scope) rest

end Rows

/-- The keys that stand in the row from which a relation starts. -/
def ownKeys : Relation → List String
  | belongsTo _ foreignKey _ => [foreignKey]
  | hasMany _ _ localKey => [localKey]
  | belongsToMany _ _ parentKey _ _ _ => [parentKey]
  | polymorphic _ _ otherKey _ _ => [otherKey]

variable {contents : Contents Cell} {reader : Reader} {adapter : Adapter} {scope : List (Frame Cell)}
  {relation : Relation}

theorem morph_direct {test : Atom} (made : relation.morphCondition? adapter = some test) : test.Direct reader := by
  have compared {left : Expr} {value : Value} (made : (Sql.compare left .equal value).toOption = some test) :
      test.Direct reader := by
    unfold Sql.compare at made
    split at made <;> cases made <;> exact ⟨trivial, fun _ => rfl⟩
  unfold morphCondition? at made
  split at made
  · split at made
    · cases made
    · cases made
    · exact compared made
  · cases made

theorem correlation_safe (relation : Relation) (reader : Reader) (adapter : Adapter) :
    (relation.correlation adapter).Safe reader := by
  have same (first second : Expr) := (Atom.sameColumn_direct first second reader).safe
  unfold correlation
  split
  · exact same ..
  · exact same ..
  · exact same ..
  · split
    · next test made =>
      have typed : (Cond.atom test).Safe reader := (morph_direct made).safe
      exact ⟨Cond.join_whole (by simp) (by simp [(same _ _).1, typed.1]) (by simp [(same _ _).2, typed.2]),
        Cond.join_steady (by simp [(same _ _).2, typed.2])⟩
    · exact same ..

private theorem same_value (left right : Expr) :
    (Cond.atom (.sameColumn left right)).value reader (contents.assignment reader adapter scope) =
      contents.equal (contents.cell adapter scope left) (contents.cell adapter scope right) := by
  rw [Contents.value_sameColumn, Contents.assignment_test, Contents.truth]

/-- What a subquery over the rows of a relation demands: rows that it brings in, which belong together. -/
theorem meets_iff {holds : List (Frame Cell) → Prop} :
    (∃ frames ∈ contents.brought adapter scope (relation.rows adapter),
        (relation.correlation adapter).value reader (contents.assignment reader adapter (frames ++ scope)) = .yes ∧
          holds frames) ↔
      ∃ frames ∈ relation.brings contents,
        relation.Meets contents adapter (frames ++ scope) (frames ++ scope) ∧ holds frames := by
  cases relation with
  | belongsTo table foreignKey ownerKey | hasMany table foreignKey localKey =>
    simp only [correlation, same_value, Meets]
    rfl
  | belongsToMany table pivot parentKey pivotParentKey pivotRelatedKey relatedKey =>
    simp only [rows, Contents.brought, List.mem_filter, beq_iff_eq, correlation, same_value, Meets, brings, and_assoc,
      Contents.truth]
    exact exists_congr fun frames => and_congr_right fun _ => and_left_comm
  | polymorphic table foreignKey otherKey morphType morphClass =>
    refine exists_congr fun frames => and_congr_right fun _ => and_congr_left' ?_
    simp only [Meets, correlation]
    split
    · next test made =>
      simp [Cond.value_join, same_value, (morph_direct made).value, made, Truth.combine, Truth.neutral]
    · next none =>
      simp [same_value, none]

/-- A subquery for one relation is true when it brings in rows that belong together, of which all else holds. -/
theorem exists_iff {others : List Cond} (safe : ∀ cond ∈ others, cond.Safe reader) :
    (Cond.exists (relation.rows adapter) (Cond.join .and (relation.correlation adapter :: others))).value reader
        (contents.assignment reader adapter scope) = .yes ↔
      ∃ frames ∈ relation.brings contents, relation.Meets contents adapter (frames ++ scope) (frames ++ scope) ∧
        ∀ other ∈ others, other.value reader (contents.assignment reader adapter (frames ++ scope)) = .yes := by
  have each : ∀ cond ∈ relation.correlation adapter :: others, cond.Safe reader :=
    List.forall_mem_cons.mpr ⟨relation.correlation_safe reader adapter, safe⟩
  have whole : (Cond.join .and (relation.correlation adapter :: others)).Whole reader :=
    Cond.join_whole (by simp) (fun cond member => (each cond member).1) fun _ _ cond member => (each cond member).2
  rw [Contents.value_exists, Contents.related_iff whole, ← @meets_iff Cell contents reader]
  simp only [Cond.value_join, List.map_cons, Truth.join_and_eq_yes, List.forall_mem_cons, List.forall_mem_map]

theorem existsThrough_safe (inner : Option Cond) (first : Relation) (rest : List Relation) :
    (first.existsThrough adapter inner rest).Safe reader := by
  cases rest <;> exact ⟨trivial, trivial⟩

/-- A search along relations is true when related rows lead to a scope in which the inner condition holds, with the keys
of each row looked up among the related rows as well. -/
theorem existsThrough_iff {inner : Option Cond} (whole : ∀ condition ∈ inner, condition.Whole reader) (first : Relation)
    (rest : List Relation) (scope : List (Frame Cell)) :
    (first.existsThrough adapter inner rest).value reader (contents.assignment reader adapter scope) = .yes ↔
      Reaches contents adapter true (fun final => Accepts reader (contents.assignment reader adapter final) inner) scope
        (first :: rest) := by
  -- Each subquery stands in the scope that the one around it opened, so the scope changes along the path.
  induction rest generalizing first scope with
  | nil =>
    have grouped : ∀ condition ∈ (inner.map Cond.group).toList, condition.Safe reader := by
      intro condition member
      obtain ⟨content, held, rfl⟩ := Option.map_eq_some_iff.mp (Option.mem_toList.mp member)
      exact ⟨whole content held, Cond.steady_group content⟩
    rw [existsThrough, exists_iff grouped]
    simp only [Reaches, if_true, accepts_iff whole]
    cases inner <;> simp [Clause.filterValue]
  | cons next rest ih =>
    have nested : ∀ condition ∈ [next.existsThrough adapter inner rest], condition.Safe reader := by
      rw [List.forall_mem_singleton]
      exact existsThrough_safe inner next rest
    rw [existsThrough, exists_iff nested, Reaches]
    simp only [if_true, List.forall_mem_singleton, ih]

/-- Whether a relation takes the keys of a row from the table of that row, and brings in other tables, each once. -/
structure Apart (adapter : Adapter) (source : String) (relation : Relation) : Prop where
  keys : ∀ key ∈ relation.ownKeys, (adapter.column key).NamesOnly adapter [source]
  tables : source ∉ relation.tables
  once : relation.tables.Nodup

/-- Whether each relation of a path is apart from the table that the one before it leads to. -/
def AllApart (adapter : Adapter) : (source : String) → List Relation → Prop
  | _, [] => True
  | source, relation :: rest => relation.Apart adapter source ∧ AllApart adapter relation.table rest

theorem brings_head {frames : List (Frame Cell)} (brought : frames ∈ relation.brings contents) :
    ∃ row others, frames = ⟨relation.table, row⟩ :: others := by
  cases relation with
  | belongsToMany table pivot parentKey pivotParentKey pivotRelatedKey relatedKey =>
    obtain ⟨⟨row, between⟩, _, rfl⟩ := List.mem_map.mp brought
    exact ⟨row, _, rfl⟩
  | _ =>
    obtain ⟨row, _, rfl⟩ := List.mem_map.mp brought
    exact ⟨row, [], rfl⟩

theorem brings_tables {frames : List (Frame Cell)} (brought : frames ∈ relation.brings contents) :
    ∀ frame ∈ frames, frame.table ∈ relation.tables := by
  cases relation with
  | belongsToMany table pivot parentKey pivotParentKey pivotRelatedKey relatedKey =>
    obtain ⟨⟨row, between⟩, _, rfl⟩ := List.mem_map.mp brought
    simp [tables]
  | _ =>
    obtain ⟨row, _, rfl⟩ := List.mem_map.mp brought
    simp [tables]

/-- Where the table of a row is not brought in again, its keys are taken from the row itself. -/
theorem Apart.meets {source : String} {row : TableRow Cell} {outer frames : List (Frame Cell)}
    (separates : adapter.dialect.Separates) (apart : relation.Apart adapter source)
    (brought : frames ∈ relation.brings contents) (inside : List (Frame Cell)) :
    relation.Meets contents adapter (frames ++ ⟨source, row⟩ :: outer) inside ↔
      relation.Meets contents adapter (⟨source, row⟩ :: outer) inside := by
  have own (key : String) (listed : key ∈ relation.ownKeys) :
      contents.cell adapter (frames ++ ⟨source, row⟩ :: outer) (adapter.column key) =
        contents.cell adapter (⟨source, row⟩ :: outer) (adapter.column key) := by
    obtain ⟨table, member, owner⟩ := apart.keys key listed
    rw [List.mem_singleton.mp member] at owner
    have hidden : ∀ frame ∈ frames, adapter.quoteIdentifier frame.table ≠ adapter.quoteIdentifier source := by
      intro frame present same
      exact apart.tables (Dialect.identifier_injective separates same ▸ brings_tables brought frame present)
    have found :
        Contents.rowOf? adapter (frames ++ ⟨source, row⟩ :: outer) (adapter.quoteIdentifier source) = some row :=
      (Contents.rowOf?_append hidden).trans Contents.rowOf?_head
    rw [Contents.cell_owned owner found, Contents.cell_owned owner Contents.rowOf?_head]
  cases relation with
  | belongsTo table foreignKey ownerKey => simp only [Meets, own foreignKey (.head _)]
  | hasMany table foreignKey localKey => simp only [Meets, own localKey (.head _)]
  | belongsToMany table pivot parentKey pivotParentKey pivotRelatedKey relatedKey =>
    simp only [Meets, own parentKey (.head _)]
  | polymorphic table foreignKey otherKey morphType morphClass => simp only [Meets, own otherKey (.head _)]

theorem reaches_apart {holds : List (Frame Cell) → Prop} (separates : adapter.dialect.Separates) {source : String}
    {relations : List Relation} (apart : AllApart adapter source relations) (row : TableRow Cell)
    (outer : List (Frame Cell)) :
    Reaches contents adapter true holds (⟨source, row⟩ :: outer) relations ↔
      Reaches contents adapter false holds (⟨source, row⟩ :: outer) relations := by
  induction relations generalizing source row outer with
  | nil => rfl
  | cons relation rest ih =>
    refine exists_congr fun frames => and_congr_right fun brought => and_congr ?_ ?_
    · exact apart.1.meets separates brought _
    · obtain ⟨related, others, rfl⟩ := brings_head brought
      exact ih apart.2 related _

end Relation

namespace Query

/-- A search along a defined path gives a clause. It is true of a row when related rows lead from it to one of which the
inner condition holds, with the keys of each row looked up by name among the related ones too; where no relation leads
back to the table that it starts from, these are the keys of the row itself. -/
theorem existsAlong_accepts {query : Query} {registry : Registry} {path main : String} {reader : Reader}
    {inner : String → Except Error (Option Cond)} (dialect : query.adapter.dialect ∈ Dialect.all)
    (named : query.mainTable? = some main) (defined : registry.Defines (some main) (Text.splitString '.' path))
    (made : ∀ table, ∃ content, inner table = .ok content ∧ ∀ condition ∈ content, condition.Whole reader)
    (contents : Contents Cell) :
    ∃ relations clause content, registry.walk (some main) path = .ok relations ∧
      query.existsAlong registry path inner = .ok clause ∧
      inner ((relations.getLast?.map Relation.table).getD "") = .ok content ∧
      ∀ row outer,
        let accepted (scope : List (Frame Cell)) := Accepts reader (contents.assignment reader query.adapter scope)
        let leads (captured : Bool) := Relation.Reaches contents query.adapter captured (accepted · content)
          (⟨main, row⟩ :: outer) relations
        (accepted (⟨main, row⟩ :: outer) (some clause) ↔ leads true) ∧
        (Relation.AllApart query.adapter main relations →
          (accepted (⟨main, row⟩ :: outer) (some clause) ↔ leads false)) := by
  obtain ⟨_, relations, walked⟩ | ⟨undefined, _⟩ := registry.walkFrom_cases (some main) (Text.splitString '.' path)
  · cases relations with
    | nil => exact absurd rfl (Registry.walk_ne_nil walked)
    | cons first rest =>
      obtain ⟨content, answered, whole⟩ := made ((first :: rest).getLast (List.cons_ne_nil _ _)).table
      have reached : query.existsAlong registry path inner = .ok (first.existsThrough query.adapter content rest) := by
        rw [existsAlong, named, Registry.walk, walked, Except.ok_bind]
        simp only [answered]
        rfl
      refine ⟨_, _, content, walked, reached, ?_, fun row outer => ?_⟩
      · rw [List.getLast?_eq_getLast_of_ne_nil (List.cons_ne_nil _ _)]
        exact answered
      · have separates := Dialect.all_separate _ dialect
        have clause : Accepts reader (contents.assignment reader query.adapter (⟨main, row⟩ :: outer))
            (some (first.existsThrough query.adapter content rest)) ↔ _ :=
          (accepts_cond (Relation.existsThrough_safe content first rest).1).trans
            (Relation.existsThrough_iff whole first rest _)
        exact ⟨clause, fun apart => clause.trans (Relation.reaches_apart separates apart row outer)⟩
  · exact absurd defined undefined

private def shopReader : Reader := ⟨.sqlite, fun _ => []⟩

private def shopQuery (table : String) : Query :=
  ofSelect { Select.empty with source := some (.table ⟨table, none⟩) } .sqlite false

private def parents : Registry :=
  ⟨[("categories", [("parent", .belongsTo "categories" "categories.parent_id" "categories.id")]),
    ("products", [("category", .belongsTo "categories" "products.category_id" "categories.id")])]⟩

private def rowOf (fields : List (String × Nat)) : TableRow Nat := fun name => List.lookup name fields

/-- Two categories, of which the first is the parent of the second. -/
private def shop : Contents Nat where
  rows table := if table = "categories" then [rowOf [("id", 1)], rowOf [("id", 2), ("parent_id", 1)]] else []
  same first second := first == second
  same_comm _ _ := Bool.beq_comm
  lower cell := cell
  cast _ cell := some cell
  compares _ _ _ := .unknown
  isTruth _ _ := .unknown
  member _ _ _ := .unknown
  regexp _ _ _ := .unknown
  regexpLike _ _ _ := .unknown
  text _ _ := none
  raw _ _ := .unknown

/-- A product is found by its category. A category is not found by its parent, whose table hides that of the category:
then the parent would have to be its own parent. -/
theorem existsAlong_accepts_parent :
    let adapter := Adapter.ofDialect .sqlite false
    let accepted (scope : List (Frame Nat)) := Accepts shopReader (shop.assignment shopReader adapter scope)
    let product := [Frame.mk "products" (rowOf [("category_id", 2)])]
    let child := [Frame.mk "categories" (rowOf [("id", 2), ("parent_id", 1)])]
    ∃ byCategory byParent,
      (shopQuery "products").existsAlong parents "category" (fun _ => .ok none) = .ok byCategory ∧
      (shopQuery "categories").existsAlong parents "parent" (fun _ => .ok none) = .ok byParent ∧
      accepted product (some byCategory) ∧ ¬ accepted child (some byParent) ∧
      Relation.Reaches shop adapter false (accepted · none) child
        [.belongsTo "categories" "categories.parent_id" "categories.id"] := by
  intro adapter accepted product child
  have made (table : String) : ∃ content,
      (fun _ : String => (.ok none : Except Error (Option Cond))) table = .ok content ∧
      ∀ condition ∈ content, condition.Whole shopReader := ⟨none, rfl, nofun⟩
  have category : parents.Defines (some "products") (Text.splitString '.' "category") := ⟨_, rfl, trivial⟩
  have parent : parents.Defines (some "categories") (Text.splitString '.' "parent") := ⟨_, rfl, trivial⟩
  have dialect (table : String) : (shopQuery table).adapter.dialect ∈ Dialect.all :=
    show Dialect.sqlite ∈ Dialect.all by simp [Dialect.all]
  obtain ⟨relations, byCategory, _, walked, found, answered, each⟩ :=
    existsAlong_accepts (dialect "products") rfl category made shop
  obtain ⟨relations', byParent, _, walked', found', answered', each'⟩ :=
    existsAlong_accepts (dialect "categories") rfl parent made shop
  cases walked
  cases walked'
  cases answered
  cases answered'
  have all (scope : List (Frame Nat)) : accepted scope none := nofun
  refine ⟨byCategory, byParent, found, found', ?_, ?_, ?_⟩
  · refine ((each _ []).2 ⟨⟨by decide +kernel, by decide, by decide⟩, trivial⟩).mpr ?_
    exact ⟨_, .tail _ (.head _), by decide +kernel, all _⟩
  · intro taken
    obtain ⟨frames, brought, meets, _⟩ := (each' _ []).1.mp taken
    have none : ∀ frames ∈ (Relation.belongsTo "categories" "categories.parent_id" "categories.id").brings shop,
        ¬ (Relation.belongsTo "categories" "categories.parent_id" "categories.id").Meets shop adapter (frames ++ child)
          (frames ++ child) := by decide +kernel
    exact none frames brought meets
  · exact ⟨_, .head _, by decide +kernel, all _⟩

end Query

end DataGrid
