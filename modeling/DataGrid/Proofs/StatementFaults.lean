import DataGrid.Proofs.Refusals

/-! What can keep a statement from being put together and written: a group that is nested too deep or comes to no
condition, a page that is no number, a select list or a sort term that no text stands for, two values under one name. None
of it is a fault of the configuration. -/

namespace DataGrid

open Sql

/-- Whether a step that fails does so for another cause than a fault of the configuration. -/
def Blameless {α : Type} (result : Except Error α) : Prop :=
  ∀ failure, result = .error failure → failure.kind ≠ .configuration

namespace Blameless

variable {α β : Type}

theorem ok (value : α) : Blameless (.ok value) := nofun

theorem error {failure : Error} (other : failure.kind ≠ .configuration) :
    Blameless (.error failure : Except Error α) := by
  rintro _ ⟨⟩
  exact other

theorem bind {first : Except Error α} {next : α → Except Error β} (one : Blameless first)
    (steps : ∀ value, Blameless (next value)) : Blameless (first >>= next) := by
  cases first with
  | error failure => exact error (one failure rfl)
  | ok value => exact steps value

theorem map {first : Except Error α} (f : α → β) (one : Blameless first) : Blameless (f <$> first) := by
  cases first with
  | error failure => exact error (one failure rfl)
  | ok value => exact ok (f value)

theorem mapM {step : α → Except Error β} (steps : ∀ item, Blameless (step item)) (items : List α) :
    Blameless (items.mapM step) := by
  induction items with
  | nil => exact ok []
  | cons head rest ih =>
    rw [List.mapM_cons]
    exact (steps head).bind fun first => ih.bind fun others => ok (first :: others)

theorem allM {test : α → Except Error Bool} (tests : ∀ item, Blameless (test item)) (items : List α) :
    Blameless (items.allM test) := by
  induction items with
  | nil => exact ok true
  | cons head rest ih =>
    rw [List.allM]
    refine (tests head).bind fun held => ?_
    cases held with
    | true => exact ih
    | false => exact ok false

end Blameless

namespace Store

variable (store : Store)

theorem emptyWithin_blameless (depth : Nat) (id : GroupId) : Blameless (store.emptyWithin depth id) := by
  induction depth generalizing id with
  | zero => exact .error nofun
  | succ depth ih =>
    rw [emptyWithin]
    refine .allM (fun entry => ?_) _
    obtain ⟨junction, entry⟩ := entry
    cases entry with
    | cond condition => exact .ok false
    | settled flag => exact .ok false
    | group inner => exact ih inner

theorem entryClause_blameless {groupClause : GroupId → Except Error (Option Clause)}
    (groups : ∀ id, Blameless (groupClause id)) (entry : Entry) : Blameless (store.entryClause groupClause entry) := by
  cases entry with
  | cond condition => exact .ok _
  | settled flag => exact .ok _
  | group inner =>
    refine (store.emptyWithin_blameless _ inner).bind fun empty => ?_
    split
    · exact .ok none
    · refine (groups inner).bind fun clause => ?_
      split
      · exact .ok none
      · exact .ok _
      · exact .error nofun

theorem clauseWithin_blameless (depth : Nat) (id : GroupId) : Blameless (store.clauseWithin depth id) := by
  induction depth generalizing id with
  | zero => exact .error nofun
  | succ depth ih =>
    rw [clauseWithin]
    refine Blameless.bind (.mapM (fun entry => ?_) _) fun clauses => .ok _
    exact (store.entryClause_blameless ih entry.2).bind fun clause => .ok _

end Store

namespace Query

theorem rowNumber_blameless (value : Value) : Blameless (rowNumber value) := by
  have number : Blameless value.toInteger := by
    intro failure failed
    have outcome := value.toInteger_outcome
    rw [failed] at outcome
    cases outcome with
    | refused _ _ kind => rcases kind with kind | kind <;> simp [kind]
    | unbounded _ kind => rcases kind with kind | kind <;> simp [kind]
  cases value with
  | null => exact .ok none
  | _ => exact number.map some

theorem select_blameless (query : Query) : Blameless query.select := by
  have item (item : Option Item) : Blameless (item.elim (.error .badOperand) .ok) := by
    cases item with
    | none => exact .error nofun
    | some item => exact .ok item
  have condition : Blameless query.condition := (query.store.clauseWithin_blameless _ query.root).bind fun _ => .ok _
  have built : Blameless (do
      let items ← query.items.mapM fun item => item.elim (.error .badOperand) .ok
      let filter ← query.condition
      let offset ← rowNumber query.offset
      let limit ← rowNumber query.limit
      return { query.base with
        items := query.base.items ++ items
        joins := query.base.joins ++ query.joins
        filter := filter
        sorts := query.base.sorts ++ query.sorts
        offset := offset.or query.base.offset
        limit := limit.or query.base.limit }) :=
    Blameless.bind (.mapM item _) fun _ => condition.bind fun _ => (rowNumber_blameless _).bind fun _ =>
      (rowNumber_blameless _).bind fun _ => .ok _
  unfold select
  split
  · exact .error nofun
  · exact built

end Query

namespace Sql

variable {dialect : Dialect}

/-! ### What a statement is laid out as -/

/-- Whether a piece that cannot be written is there for another cause than a fault of the configuration. -/
def Piece.Blameless : Piece → Prop
  | .refused cause => cause.kind ≠ .configuration
  | _ => True

/-- Whether nothing in a layout is there for a fault of the configuration. -/
def BlamelessLayout (pieces : List Piece) : Prop := ∀ piece ∈ pieces, piece.Blameless

namespace BlamelessLayout

variable {first second : List Piece}

theorem nil : BlamelessLayout [] := nofun

theorem cons {piece : Piece} (head : piece.Blameless) (rest : BlamelessLayout second) :
    BlamelessLayout (piece :: second) :=
  List.forall_mem_cons.mpr ⟨head, rest⟩

theorem text (content : String) (rest : BlamelessLayout second) : BlamelessLayout (.text content :: second) :=
  cons trivial rest

theorem append (one : BlamelessLayout first) (other : BlamelessLayout second) : BlamelessLayout (first ++ second) :=
  List.forall_mem_append.mpr ⟨one, other⟩

theorem separated (separator : String) {lists : List (List Piece)} (each : ∀ pieces ∈ lists, BlamelessLayout pieces) :
    BlamelessLayout (separated separator lists) := by
  induction lists with
  | nil => exact nil
  | cons pieces rest ih =>
    obtain ⟨head, tail⟩ := List.forall_mem_cons.mp each
    cases rest with
    | nil => exact head
    | cons next more => exact head.append ((ih tail).text separator)

theorem optionalClause (opening : String) {lists : List (List Piece)}
    (each : ∀ pieces ∈ lists, BlamelessLayout pieces) :
    BlamelessLayout (optionalClause opening lists) := by
  unfold Sql.optionalClause
  split
  · exact nil
  · exact (separated ", " each).text opening

end BlamelessLayout

theorem Atom.blamelessLayout (test : Atom) : BlamelessLayout (test.pieces dialect) := by
  cases test with
  | member left values negated => cases negated <;> simp [BlamelessLayout, pieces, Piece.Blameless]
  | _ => simp [BlamelessLayout, pieces, Piece.Blameless]

mutual

theorem Cond.blamelessLayout (cond : Cond) : BlamelessLayout (cond.pieces dialect) := by
  match cond with
  | .atom test => exact test.blamelessLayout
  | .exists rows inner | .group inner =>
    rw [Cond.pieces]
    exact ((Cond.blamelessLayout inner).append (.text ")" .nil)).text _
  | .joined junction terms => exact .separated _ (Cond.all_blamelessLayout terms)

theorem Cond.all_blamelessLayout (conds : List Cond) :
    ∀ pieces ∈ Cond.listPieces dialect conds, BlamelessLayout pieces := by
  match conds with
  | [] => exact List.forall_mem_nil _
  | cond :: rest => exact List.forall_mem_cons.mpr ⟨Cond.blamelessLayout cond, Cond.all_blamelessLayout rest⟩

end

theorem Cond.written_blameless (cond : Cond) : BlamelessLayout (cond.written dialect) := by
  unfold written
  split
  · exact .cons nofun .nil
  · exact cond.blamelessLayout

theorem columnPieces_blameless (inner derived : Bool) (before : List Item) (table name : String) :
    BlamelessLayout (columnPieces dialect inner derived before table name) := by
  unfold columnPieces
  refine BlamelessLayout.append ?_ ?_
  · cases derived <;> simp [BlamelessLayout, Piece.Blameless]
  · split_ifs <;> simp [BlamelessLayout, Piece.Blameless]

theorem itemPieces_blameless (inner derived : Bool) (before items : List Item) :
    ∀ pieces ∈ itemPieces dialect inner derived before items, BlamelessLayout pieces := by
  induction items generalizing before with
  | nil => exact List.forall_mem_nil _
  | cons item rest ih =>
    refine List.forall_mem_cons.mpr ⟨?_, ih (item :: before)⟩
    cases item with
    | column table name => exact columnPieces_blameless inner derived before table name
    | _ => simp [constantPieces, BlamelessLayout, Piece.Blameless]

theorem SortTerm.blamelessLayout (term : SortTerm) : BlamelessLayout (term.pieces dialect) := by
  cases term with
  | text sql =>
    simp only [pieces]
    split <;> simp [BlamelessLayout, Piece.Blameless]
  | value content =>
    simp only [pieces]
    split_ifs <;> simp [BlamelessLayout, Piece.Blameless, Error.kind]
  | _ => simp [pieces, BlamelessLayout, Piece.Blameless]

theorem windowPieces_blameless (offset limit : Option Int) : BlamelessLayout (windowPieces dialect offset limit) := by
  unfold windowPieces
  split <;> simp [BlamelessLayout, Piece.Blameless, boundNumber]

theorem Join.blamelessLayout (join : Join) : BlamelessLayout (join.pieces dialect) := join.on.blamelessLayout.text _

theorem joinedPieces_blameless (joins : List Join) (source : Source) {pieces : List Piece}
    (own : BlamelessLayout pieces) : BlamelessLayout (joinedPieces dialect joins source pieces) := by
  have besides : BlamelessLayout (joins.flatMap (Join.pieces dialect)) := by
    intro piece member
    obtain ⟨join, _, inside⟩ := List.mem_flatMap.mp member
    exact join.blamelessLayout piece inside
  cases source with
  | text sql =>
    refine .separated _ (List.forall_mem_cons.mpr ⟨own, ?_⟩)
    exact List.forall_mem_map.mpr fun join _ => own.append join.blamelessLayout
  | _ => exact own.append besides

mutual

theorem Source.blamelessLayout (source : Source) : BlamelessLayout (source.pieces dialect) := by
  match source with
  | .table name => exact .text _ .nil
  | .text sql => exact .text _ .nil
  | .derived name members =>
    rw [Source.pieces]
    exact ((BlamelessLayout.separated _ (Select.all_blamelessLayout _ members)).append (.text _ .nil)).text _

theorem Select.blamelessLayout (inner : Bool) (statement : Select) :
    BlamelessLayout (statement.pieces dialect inner) := by
  match statement with
  | ⟨distinct, items, source, joins, filter, groups, havingOver, sorts, offset, limit⟩ =>
    have list (derived : Bool) : BlamelessLayout (separated ", " (itemPieces dialect inner derived [] items)) :=
      .separated _ (itemPieces_blameless inner derived [] items)
    have grouped : BlamelessLayout (Sql.optionalClause " GROUP BY " (groups.map fun e => [.text (dialect.expr e)])) :=
      .optionalClause _ (List.forall_mem_map.mpr fun _ _ => .text _ .nil)
    have sorted : BlamelessLayout
        (Sql.optionalClause " ORDER BY " ((sorts.map (SortTerm.pieces dialect)).filter (!·.isEmpty))) := by
      refine .optionalClause _ fun pieces kept => ?_
      obtain ⟨term, _, rfl⟩ := List.mem_map.mp (List.mem_of_mem_filter kept)
      exact term.blamelessLayout
    rw [Select.pieces.eq_def]
    refine .append (.append (.append (.append (.append (.append ((list _).text _) ?_) ?_) grouped) ?_) sorted)
      (windowPieces_blameless offset limit)
    · match source with
      | none => exact .nil
      | some source => exact (joinedPieces_blameless joins source (Source.blamelessLayout source)).text _
    · match filter with
      | none => exact .nil
      | some cond => exact cond.written_blameless.text _
    · match havingOver with
      | none => exact .nil
      | some n => exact .text _ (.cons trivial .nil)

theorem Select.all_blamelessLayout (united : Bool) (members : List Select) :
    ∀ pieces ∈ Select.listPieces dialect united members, BlamelessLayout pieces := by
  match members with
  | [] => exact List.forall_mem_nil _
  | statement :: rest =>
    rw [Select.listPieces]
    refine List.forall_mem_cons.mpr ⟨?_, Select.all_blamelessLayout united rest⟩
    have layout : BlamelessLayout (statement.pieces dialect true) := Select.blamelessLayout true statement
    split
    · exact (layout.append (.text _ .nil)).text _
    · exact layout

end

/-! ### How it is written -/

/-- Whether a step that makes up names fails, if at all, for another cause than a fault of the configuration. -/
def Namer.Blameless {α : Type} (step : Namer α) : Prop := ∀ naming, DataGrid.Blameless (step naming)

namespace Namer.Blameless

variable {α β : Type}

theorem pure (value : α) : Namer.Blameless (pure value) := fun _ => .ok _

theorem bind {first : Namer α} {next : α → Namer β} (one : Namer.Blameless first)
    (steps : ∀ value, Namer.Blameless (next value)) : Namer.Blameless (first >>= next) :=
  fun naming => (one naming).bind fun (value, later) => steps value later

theorem map {first : Namer α} (f : α → β) (one : Namer.Blameless first) : Namer.Blameless (f <$> first) :=
  fun naming => (one naming).bind fun _ => .ok _

theorem get {next : Naming → Namer α} (steps : ∀ naming, Namer.Blameless (next naming)) :
    Namer.Blameless (MonadState.get >>= next) :=
  bind (fun _ => .ok _) steps

theorem set (naming : Naming) : Namer.Blameless (set naming) := fun _ => .ok _

theorem lift {result : Except Error α} (blameless : DataGrid.Blameless result) :
    Namer.Blameless (liftM result : Namer α) :=
  fun _ => blameless.bind fun _ => .ok _

theorem mapM {step : α → Namer β} {items : List α} (steps : ∀ item ∈ items, Namer.Blameless (step item)) :
    Namer.Blameless (items.mapM step) := by
  induction items with
  | nil => exact pure []
  | cons head rest ih =>
    obtain ⟨first, others⟩ := List.forall_mem_cons.mp steps
    rw [List.mapM_cons]
    exact first.bind fun _ => (ih others).bind fun _ => pure _

end Namer.Blameless

namespace Namer

theorem numbered_blameless (base : String) : Namer.Blameless (numbered base) :=
  .get fun _ => (Blameless.set _).bind fun _ => .pure _

theorem shownColumn_blameless (name : String) : Namer.Blameless (shownColumn dialect name) := by
  refine Blameless.bind ?_ fun _ => .pure _
  unfold column
  split
  · exact .pure name
  · refine .get fun naming => ?_
    split
    · exact .pure _
    · exact (Blameless.set _).bind fun _ => .pure _

theorem claim_blameless (name : String) (alone : Bool) : Namer.Blameless (claim name alone) := by
  refine .get fun naming => ?_
  split
  · exact .set _
  · split
    · exact fun _ => .error nofun
    · exact .pure _

theorem value_blameless (base : String) : Namer.Blameless (value dialect base) := by
  refine (numbered_blameless base).bind fun name => .get fun naming => ?_
  have claimed (shown : String) : Namer.Blameless (claim shown true >>= fun _ => Pure.pure shown) :=
    (claim_blameless shown true).bind fun _ => .pure _
  split
  · exact (Blameless.set _).bind fun _ => claimed _
  · exact claimed _

theorem fragment_blameless (named : List (String × String)) (content : Fragment) :
    Namer.Blameless (fragment dialect named content) := by
  induction content generalizing named with
  | nil => exact .pure named
  | cons part rest ih =>
    cases part with
    | chars content => exact ih named
    | place name value =>
      rw [fragment]
      split
      · exact ih named
      · exact (value_blameless name).bind fun _ => ih _
    | free name => exact (claim_blameless name false).bind fun _ => ih _

end Namer

theorem fragmentText_blameless {write : String → Value → Except Error String}
    (writes : ∀ name value, Blameless (write name value)) (content : Fragment) :
    Blameless (fragmentText dialect write content) := by
  suffices chars : Blameless (fragmentChars dialect write content) from chars.bind fun _ => .ok _
  induction content with
  | nil => exact .ok []
  | cons part rest ih =>
    cases part with
    | chars content => exact ih.bind fun _ => .ok _
    | place name value => exact (writes name value).bind fun _ => ih.bind fun _ => .ok _
    | free name => exact (writes name .null).bind fun _ => ih.bind fun _ => .ok _

theorem Piece.placeholders_blameless {piece : Piece} (blameless : piece.Blameless) :
    Namer.Blameless (piece.placeholders dialect) := by
  cases piece with
  | text content => exact .pure content
  | name content => exact Namer.shownColumn_blameless content
  | numbered base => exact (Namer.numbered_blameless base).bind Namer.shownColumn_blameless
  | bound base value => exact (Namer.value_blameless base).bind fun _ => .pure _
  | members base values negated => exact (Namer.value_blameless base).bind fun _ => .pure _
  | fragment content =>
    exact (Namer.fragment_blameless [] content).bind fun _ => .lift (fragmentText_blameless (fun _ _ => .ok _) content)
  | refused cause => exact fun _ => .error blameless
  | hidden content value => exact ((Namer.value_blameless "param").map _).bind fun _ => .pure _

theorem writtenText_blameless {write : Piece → Namer String} {pieces : List Piece}
    (writes : ∀ piece ∈ pieces, Namer.Blameless (write piece)) : Blameless (writtenText write pieces) :=
  ((Namer.Blameless.mapM writes {}).map Prod.fst).bind fun _ => .ok _

theorem Select.placeholderSql_blameless (statement : Select) : Blameless (statement.placeholderSql dialect) :=
  writtenText_blameless fun piece member => Piece.placeholders_blameless (statement.blamelessLayout false piece member)

end Sql

/-- A note that a pass leaves fails, if at all, for another cause than a fault of the configuration. -/
theorem Refresh.note_blameless (pass : String) (before : Refresh) : Blameless (note pass before).1 := by
  have text : Blameless (before.query.select >>= Select.placeholderSql before.query.dialect) :=
    before.query.select_blameless.bind fun statement => statement.placeholderSql_blameless
  have read : (MonadState.get : Action Refresh Refresh) before = (.ok before, before) := rfl
  rw [note, Action.bind_eq read]
  split
  · cases written : before.query.select >>= Select.placeholderSql before.query.dialect with
    | error failure =>
      have failed : (liftM (.error failure : Except Error String) : Action Refresh String) before =
        (.error failure, before) := rfl
      rw [Action.bind_error failed]
      exact .error (text failure written)
    | ok content => exact .ok _
  · exact .ok _

end DataGrid
