import DataGrid.RowOrder
import DataGrid.Proofs.SqlSkeleton
import DataGrid.Proofs.TwinPasses

/-! The texts of sort terms. A name or a path has its direction behind it; with nulls last, both stand in the places of
a template. When all places of the template take their texts as they are, terms of one shape come from one skeleton. -/

namespace DataGrid

open Sql

namespace Template

/-- Whether every percent sign of a template is a place for a text as it is, or is doubled. -/
def isPlain : List Char → Bool
  | [] => true
  | '%' :: '%' :: rest | '%' :: 's' :: rest => isPlain rest
  | '%' :: _ => false
  | _ :: rest => isPlain rest

/-- Puts a character before the first of some stretches. -/
def extend (c : Char) : List (List Char) → List (List Char)
  | [] => [[c]]
  | first :: others => (c :: first) :: others

/-- The stretches of a plain template around its places. -/
def stretches : List Char → List (List Char)
  | [] => [[]]
  | '%' :: '%' :: rest => extend '%' (stretches rest)
  | '%' :: 's' :: rest => [] :: stretches rest
  | c :: rest => extend c (stretches rest)

def weave : List (List Char) → List String → List Char
  | first :: others, content :: texts => first ++ content.toList ++ weave others texts
  | stretches, _ => stretches.flatten

theorem readPlace_plain (rest : List Char) : readPlace ('s' :: rest) = .ok ⟨false, none, none, 's', rest⟩ := rfl

theorem fillPlace_plain (rest : List Char) (index : Nat) (content : String) :
    fillPlace ⟨false, none, none, 's', rest⟩ index content = .ok content.toList := by
  have enough : checkMemory 0 = .ok () := rfl
  simp [fillPlace, enough]

theorem extend_length (c : Char) {stretches : List (List Char)} (some : stretches ≠ []) :
    (extend c stretches).length = stretches.length := by
  cases stretches with
  | nil => exact absurd rfl some
  | cons first others => rfl

theorem weave_extend (c : Char) {stretches : List (List Char)} (some : stretches ≠ []) (texts : List String) :
    weave (extend c stretches) texts = c :: weave stretches texts := by
  cases stretches with
  | nil => exact absurd rfl some
  | cons first others => cases texts <;> rfl

theorem stretches_ne_nil (chars : List Char) : stretches chars ≠ [] := by
  fun_induction stretches chars with
  | case1 => simp
  | case2 rest ih | case4 c rest _ _ ih =>
    unfold extend
    split <;> simp
  | case3 rest ih => simp

/-- A plain template is filled with the texts between its stretches, as many as it has places. -/
theorem fillFrom_plain {size fuel : Nat} {chars filled : List Char} {texts : List String} (enough : chars.length < fuel)
    (plain : isPlain chars = true) (done : fillFrom size fuel chars texts = .ok filled) :
    (stretches chars).length = texts.length + 1 ∧ filled = weave (stretches chars) texts := by
  fun_induction isPlain chars generalizing fuel texts filled
  all_goals obtain ⟨fuel, rfl⟩ : ∃ left, fuel = left + 1 := ⟨fuel - 1, by omega⟩
  case case1 =>
    rw [fillFrom] at done
    cases texts with
    | nil =>
      cases done
      exact ⟨rfl, rfl⟩
    | cons => cases done
  case case2 rest ih =>
    obtain ⟨more, found, same⟩ := Except.bind_ok done
    cases same
    obtain ⟨many, rfl⟩ := ih (by simp at enough; omega) plain found
    have some := stretches_ne_nil rest
    refine ⟨?_, ?_⟩
    · rw [stretches, extend_length _ some]
      exact many
    · rw [stretches, weave_extend _ some]
  case case3 rest ih =>
    obtain ⟨place, read, placed⟩ := Except.bind_ok done
    rw [readPlace_plain] at read
    cases read
    cases texts with
    | nil => cases placed
    | cons content others =>
      obtain ⟨shown, written, placed⟩ := Except.bind_ok placed
      rw [fillPlace_plain] at written
      cases written
      obtain ⟨more, found, same⟩ := Except.bind_ok placed
      cases same
      obtain ⟨many, rfl⟩ := ih (by simp at enough; omega) plain found
      exact ⟨congrArg (· + 1) many, rfl⟩
  case case4 => cases plain
  case case5 c rest quoted named other ih =>
    have cut : stretches (c :: rest) = extend c (stretches rest) := stretches.eq_4 c rest quoted named
    rw [fillFrom, if_pos other] at done
    obtain ⟨more, found, same⟩ := Except.bind_ok done
    cases same
    obtain ⟨many, rfl⟩ := ih (by simp at enough; omega) plain found
    have some := stretches_ne_nil rest
    rw [cut, extend_length _ some, weave_extend _ some]
    exact ⟨many, rfl⟩

/-- A plain template with two places has three stretches, whatever the texts are. -/
theorem fill_plain {template : String} (plain : isPlain template.toList = true) :
    ∃ before between after : String, ∀ column direction filled, fill template [column, direction] = .ok filled →
      filled = before ++ column ++ between ++ direction ++ after := by
  have filled {column direction filled : String} (done : fill template [column, direction] = .ok filled) :
      (stretches template.toList).length = 3 ∧
        filled = String.ofList (weave (stretches template.toList) [column, direction]) := by
    obtain ⟨chars, found, same⟩ := Except.bind_ok done
    cases same
    have enough : template.toList.length < template.length + 1 := by
      rw [String.length_toList]
      omega
    obtain ⟨many, rfl⟩ := fillFrom_plain enough plain found
    exact ⟨many, rfl⟩
  match found : stretches template.toList with
  | [before, between, after] =>
    refine ⟨String.ofList before, String.ofList between, String.ofList after, ?_⟩
    intro column direction text done
    obtain ⟨_, same⟩ := filled done
    rw [same, found]
    simp [weave, String.ofList_append, String.append_assoc]
  | [] | [_] | [_, _] | _ :: _ :: _ :: _ :: _ =>
    refine ⟨"", "", "", ?_⟩
    intro column direction text done
    obtain ⟨many, _⟩ := filled done
    rw [found] at many
    simp at many

-- Settings take this template for one with two places, since they count the doubled percent sign.
example : fill "%%s %.3s %s" ["'a-b'", "desc"] = .ok "%s 'a- desc" := by rfl

end Template

theorem Query.joinPath_sorts {query joined : Query} {registry : Registry} {path column reached : String}
    (done : query.joinPath registry path column = .ok (reached, joined)) : joined.sorts = query.sorts := by
  have kept (query : Query) (target : TableName) (on : Cond) : (query.leftJoin target on).2.sorts = query.sorts := by
    unfold Query.leftJoin
    split <;> rfl
  obtain ⟨relations, walked, same⟩ := Except.bind_ok done
  cases same
  clear done walked
  induction relations generalizing query with
  | nil => rfl
  | cons relation rest ih =>
    rw [List.foldl_cons, ih]
    cases relation with
    | belongsTo | hasMany | polymorphic => exact kept _ _ _
    | belongsToMany => exact (kept _ _ _).trans (kept query _ _)

namespace RowOrder

/-- The texts of a sort term under a name: the name or its JSON path with the direction behind it, which goes for a
fallback, too; with nulls last, both in the places of the template. -/
inductive Writes (config : Config) (adapter : Adapter) (name : String) (term : OrderTerm) (direction : String) :
    String → Prop where
  | name (json : term.jsonPath = .null) (plain : config.nullsLast.truthy = false) :
      Writes config adapter name term direction (adapter.quoteIdentifier name ++ " " ++ direction)
  | placed {template filled : String} (json : term.jsonPath = .null) (last : config.nullsLast.truthy = true)
      (given : config.nullsLastSql = .text template)
      (done : Template.fill template [adapter.quoteIdentifier name, direction] = .ok filled) :
      Writes config adapter name term direction filled
  | path {written : String} (json : term.jsonPath ≠ .null) (fallback : term.fallback = .null)
      (read : adapter.jsonPathOf name term.jsonPath = .ok written) :
      Writes config adapter name term direction (written ++ " " ++ direction)
  | either {written other : String} (json : term.jsonPath ≠ .null) (fallback : term.fallback ≠ .null)
      (read : adapter.jsonPathOf name term.jsonPath = .ok written) (named : term.fallback.toColumnName = .ok other) :
      Writes config adapter name term direction
        (written ++ " " ++ direction ++ ", " ++ adapter.quoteIdentifier other ++ " " ++ direction)

variable {config : Config} {adapter : Adapter} {name : String} {term : OrderTerm}

theorem termSql_writes {sql : String} (made : termSql config adapter name term = .ok sql) :
    Writes config adapter name term (directionWord term.descending) sql := by
  unfold termSql at made
  dsimp only at made
  split at made
  · next json =>
    by_cases last : config.nullsLast.truthy = true
    · rw [if_pos last] at made
      unfold Adapter.nullsLast at made
      split at made
      · next given => exact .placed json last given made
      · cases made
    · rw [if_neg last] at made
      cases made
      exact .name json (by simpa using last)
  · next json =>
    obtain ⟨written, read, made⟩ := Except.bind_ok made
    dsimp only at made
    split at made
    · next fallback =>
      cases made
      exact .path json fallback read
    · next fallback =>
      obtain ⟨other, named, same⟩ := Except.bind_ok made
      cases same
      exact .either json fallback read named

variable {order : RowOrder} {before after : Query}

/-- The name under which the requested column is reached. -/
def reachedName (order : RowOrder) (query : Query) (term : OrderTerm) : Except Error String :=
  match order.paths.split? term.column with
  | some (path, column) => (query.joinPath order.registry path column).map Prod.fst
  | none => .ok term.column

/-- What becomes of the sort terms of a query, however ordering it ends: a script of the caller or an override of the
requested column sets them, or one term is added at most. -/
inductive Ordered (order : RowOrder) (before after : Query) : Prop where
  | kept (adapter : after.adapter = before.adapter) (same : after.sorts = before.sorts)
  | script {script : List QueryStep} (given : order.script = some script)
  | override {term : OrderTerm} {override : Override QueryStep} (asked : order.request.orderTerm? = .ok (some term))
      (found : order.overrides.lookup term.column = some override)
  | term {term : OrderTerm} {name sql : String} (asked : order.request.orderTerm? = .ok (some term))
      (free : order.overrides.lookup term.column = none) (kept : order.excludes term.column = false)
      (reached : order.reachedName before term = .ok name)
      (writes : Writes order.config before.adapter name term (directionWord term.descending) sql)
      (adapter : after.adapter = before.adapter) (added : after.sorts = before.sorts ++ [.text sql])

theorem addTerm_eq (config : Config) (name : String) (term : OrderTerm) (before : Query) :
    addTerm config name term before =
      match termSql config before.adapter name term with
      | .ok sql => (.ok ⟨⟩, before.orderBy (.text sql))
      | .error failure => (.error failure, before) := by
  have asked : addTerm config name term before =
      ((liftM (termSql config before.adapter name term) : Action Query String) >>= fun sql =>
        set (before.orderBy (.text sql))) before := rfl
  rw [asked]
  cases termSql config before.adapter name term <;> rfl

theorem addTerm_ordered {term : OrderTerm} {name : String} {between : Query}
    (asked : order.request.orderTerm? = .ok (some term)) (free : order.overrides.lookup term.column = none)
    (kept : order.excludes term.column = false) (reached : order.reachedName before term = .ok name)
    (adapter : between.adapter = before.adapter) (sorts : between.sorts = before.sorts) :
    Ordered order before (addTerm order.config name term between).2 := by
  rw [addTerm_eq, adapter]
  cases made : termSql order.config before.adapter name term with
  | error failure => exact .kept adapter sorts
  | ok sql =>
    have added : (between.orderBy (.text sql)).sorts = before.sorts ++ [.text sql] := by rw [← sorts, Query.orderBy]
    exact .term asked free kept reached (termSql_writes made) adapter added

/-- A path that cannot be followed leaves the query as it is; otherwise the term is added behind its joins. -/
theorem addPathTerm_cases (order : RowOrder) (path column : String) (term : OrderTerm) (before : Query) :
    (order.addPathTerm path column term before).2 = before ∨
      ∃ name joined, before.joinPath order.registry path column = .ok (name, joined) ∧
        (order.addPathTerm path column term before).2 = (addTerm order.config name term joined).2 := by
  have stepped : order.addPathTerm path column term before =
      ((liftM (before.isOrderablePath order.registry path) : Action Query Bool) >>= fun orderable =>
        if orderable then do
          let reached ← liftM (before.joinPath order.registry path column)
          set reached.2
          addTerm order.config reached.1 term
        else pure ⟨⟩) before := rfl
  rw [stepped]
  cases before.isOrderablePath order.registry path with
  | error failure => exact .inl rfl
  | ok orderable =>
    cases orderable with
    | false => exact .inl rfl
    | true =>
      cases before.joinPath order.registry path column with
      | error failure => exact .inl rfl
      | ok reached => exact .inr ⟨reached.1, reached.2, rfl, rfl⟩

theorem addPathTerm_ordered {term : OrderTerm} {path column : String}
    (asked : order.request.orderTerm? = .ok (some term)) (free : order.overrides.lookup term.column = none)
    (kept : order.excludes term.column = false) (split : order.paths.split? term.column = some (path, column)) :
    Ordered order before (order.addPathTerm path column term before).2 := by
  obtain same | ⟨name, joined, reached, same⟩ := order.addPathTerm_cases path column term before
  · exact .kept (congrArg Query.adapter same) (congrArg Query.sorts same)
  · have named : order.reachedName before term = .ok name := by
      rw [reachedName, split]
      exact congrArg (Except.map Prod.fst) reached
    rw [same]
    exact addTerm_ordered asked free kept named (Query.joinPath_alike reached).adapter (Query.joinPath_sorts reached)

/-- Ordering ends in one of these ways, whether it comes through or fails. -/
theorem run_ordered (order : RowOrder) (before : Query) : Ordered order before (order.run before).2 := by
  unfold run
  cases given : order.script with
  | some script => exact .script given
  | none =>
    cases asked : order.request.orderTerm? with
    | error failure => exact .kept rfl rfl
    | ok asked' =>
      cases asked' with
      | none => exact .kept rfl rfl
      | some term =>
        change Ordered order before (order.addRequested term before).2
        unfold addRequested
        cases found : order.overrides.lookup term.column with
        | some override => exact .override asked found
        | none =>
          dsimp only
          split
          · next kept =>
            have kept : order.excludes term.column = false := by simpa using kept
            cases split : order.paths.split? term.column with
            | some along => exact addPathTerm_ordered asked found kept split
            | none =>
              refine addTerm_ordered asked found kept ?_ rfl rfl
              rw [reachedName, split]
          · exact .kept rfl rfl

/-- Without overrides and script, an order adds one term at most, written with its direction. -/
theorem run_writes {result : PUnit} (overrides : order.overrides = []) (script : order.script = none)
    (ran : order.run before = (.ok result, after)) :
    after.adapter = before.adapter ∧ (after.sorts = before.sorts ∨ ∃ name term sql,
      Writes order.config before.adapter name term (directionWord term.descending) sql ∧
        after.sorts = before.sorts ++ [.text sql]) := by
  have ordered := order.run_ordered before
  rw [ran] at ordered
  cases ordered with
  | kept adapter same => exact ⟨adapter, .inl same⟩
  | script given => cases script.symm.trans given
  | override _ found =>
    rw [overrides] at found
    cases found
  | term _ _ _ _ writes adapter added => exact ⟨adapter, .inr ⟨_, _, _, writes, added⟩⟩

end RowOrder

theorem Sql.SortTerm.Twin.of_texts {like : Likeness} {dialect : Dialect} {first second : String} (full : first ≠ "")
    (full' : second ≠ "") (alike : like.relates [.text (dialect.plain first)] [.text (dialect.plain second)]) :
    SortTerm.Twin like dialect (.text first) (.text second) := by
  have one : (SortTerm.text first).pieces dialect = [.text (dialect.plain first)] := if_neg full
  have other : (SortTerm.text second).pieces dialect = [.text (dialect.plain second)] := if_neg full'
  constructor
  · rw [one, other]
    exact alike
  · rw [one, other]
    rfl

/-- Every place of the template takes its text as it is, if the template is used at all. -/
def Config.PlainNullsLast (config : Config) : Prop :=
  config.nullsLast.truthy = true →
    ∀ template, config.nullsLastSql = .text template → Template.isPlain template.toList = true

/-- Terms of one shape, under names that are written alike, are written alike when the template is plain. -/
theorem OrderTerm.writtenAs_of_shape {like : Likeness} {config : Config} {adapter : Adapter} {first second : OrderTerm}
    {name other : String}
    (plain : config.PlainNullsLast)
    (direction : first.descending = second.descending) (json : first.jsonPath = .null ↔ second.jsonPath = .null)
    (fallback : first.fallback = .null ↔ second.fallback = .null)
    (fallbacks : ∀ a b, first.fallback.toColumnName = .ok a → second.fallback.toColumnName = .ok b →
      Expr.Twin like adapter.dialect (adapter.column a) (adapter.column b))
    (columns : Column.WrittenAs like adapter first.jsonPath second.jsonPath name other) :
    OrderTerm.WrittenAs like config adapter first second name other := by
  intro sql sql' made made'
  have word : directionWord second.descending ≠ "" := by
    unfold directionWord
    split <;> decide
  have quoted : like.relates [.text (adapter.dialect.plain (adapter.quoteIdentifier name))]
      [.text (adapter.dialect.plain (adapter.quoteIdentifier other))] := columns.names.written
  have writes := RowOrder.termSql_writes made
  rw [direction] at writes
  cases writes with
  | name none off =>
    cases RowOrder.termSql_writes made' with
    | name =>
      apply SortTerm.Twin.of_texts
      · simp [word]
      · simp [word]
      · simp only [Dialect.plain_append]
        exact like.followed (like.followed quoted _) _
    | placed _ on => cases off.symm.trans on
    | path some | either some => exact absurd (json.mp none) some
  | placed none on given done =>
    cases RowOrder.termSql_writes made' with
    | name _ off => cases off.symm.trans on
    | placed _ _ given' done' =>
      cases given.symm.trans given'
      obtain ⟨before, between, after, same⟩ := Template.fill_plain (plain on _ given)
      rw [same _ _ _ done, same _ _ _ done']
      apply SortTerm.Twin.of_texts
      · simp [word]
      · simp [word]
      · simp only [Dialect.plain_append]
        exact like.followed (like.followed (like.followed (like.preceded _ quoted) _) _) _
    | path some | either some => exact absurd (json.mp none) some
  | path some none read =>
    cases RowOrder.termSql_writes made' with
    | name none' | placed none' => exact absurd (json.mpr none') some
    | path _ _ read' =>
      apply SortTerm.Twin.of_texts
      · simp [word]
      · simp [word]
      · simp only [Dialect.plain_append]
        exact like.followed (like.followed (columns.paths read read').written _) _
    | either _ some' => exact absurd (fallback.mp none) some'
  | either some some' read named =>
    cases RowOrder.termSql_writes made' with
    | name none' | placed none' => exact absurd (json.mpr none') some
    | path _ none' => exact absurd (fallback.mpr none') some'
    | either _ _ read' named' =>
      apply SortTerm.Twin.of_texts
      · simp [word]
      · simp [word]
      · simp only [Dialect.plain_append]
        have path := (columns.paths read read').written
        have instead := (fallbacks _ _ named named').written
        refine like.followed (like.followed ?_ _) _
        exact like.texts (like.followed (like.followed (like.followed path _) _) _) instead

end DataGrid
