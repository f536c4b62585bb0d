import DataGrid.Relation.Model
import DataGrid.Proofs.JoinRuns

/-! The keys of relations that are read off models. Each stands on a table that the relation joins: the one that it is
registered under, the related one, or the pivot table between them. -/

namespace DataGrid

/-- Whether a key is spelled as a column of a table with a name, behind that name. -/
def Spelled (tables : List ModelTable) (name key : String) : Prop :=
  ∃ table ∈ tables, ∃ column ∈ table.columns, table.name = name ∧ key = name ++ "." ++ column.name

instance (tables : List ModelTable) (name key : String) : Decidable (Spelled tables name key) :=
  inferInstanceAs (Decidable (∃ table ∈ tables, ∃ column ∈ table.columns, _))

/-- Whether the keys of a relation stand on its tables, where `far` is the table that holds the key of a polymorphic
relation, or is the pivot table. -/
def Relation.KeysFit (tables : List ModelTable) (source far : String) : Relation → Prop
  | belongsTo table foreignKey ownerKey => Spelled tables source foreignKey ∧ Spelled tables table ownerKey
  | hasMany table foreignKey localKey => Spelled tables table foreignKey ∧ Spelled tables source localKey
  | belongsToMany table pivot parentKey pivotParentKey pivotRelatedKey relatedKey =>
    pivot = far ∧ Spelled tables source parentKey ∧ Spelled tables pivot pivotParentKey ∧
      Spelled tables pivot pivotRelatedKey ∧ Spelled tables table relatedKey
  | polymorphic _ foreignKey otherKey _ _ => Spelled tables far foreignKey ∧ Spelled tables source otherKey

instance (tables : List ModelTable) (source far : String) (relation : Relation) :
    Decidable (relation.KeysFit tables source far) := by
  cases relation <;> unfold Relation.KeysFit <;> infer_instance

namespace ModelTable

variable {considered : String × String → Bool} {table other : ModelTable} {key : ForeignKey} {keys : List ForeignKey}

def RefersTo (table : ModelTable) (other : String) : Prop :=
  ∃ column ∈ table.columns, column.references.map Prod.fst = some other

instance (table : ModelTable) (other : String) : Decidable (table.RefersTo other) :=
  inferInstanceAs (Decidable (∃ column ∈ table.columns, _))

/-- Whether a pair of columns is one of a table and one of another. -/
structure Pairs (holder owner : ModelTable) (key : ForeignKey) : Prop where
  holder : key.holder.1 = holder.name ∧ holder.hasColumn key.holder.2 = true
  owner : key.owner.1 = owner.name ∧ owner.hasColumn key.owner.2 = true

theorem column_ok {name : String} {column : String × String} (found : table.column name = .ok column) :
    column.1 = table.name ∧ table.hasColumn column.2 = true := by
  unfold ModelTable.column at found
  split at found
  · next known =>
    cases found
    exact ⟨rfl, known⟩
  · cases found

theorem keysTo_ok (found : table.keysTo considered other = .ok keys) :
    ∀ key ∈ keys, table.Pairs other key ∧ table.RefersTo other.name := by
  obtain ⟨read, taken, same⟩ := Except.bind_ok found
  cases same
  intro key member
  obtain ⟨option, among, rfl⟩ := List.mem_filterMap.mp member
  obtain ⟨column, listed, made⟩ := Except.mapM_mem taken _ among
  cases reference : column.references with
  | none =>
    rw [reference] at made
    cases made
  | some target =>
    obtain ⟨name, column'⟩ := target
    rw [reference] at made
    dsimp only at made
    split at made
    · cases made
    · next chosen =>
      obtain ⟨rfl, -⟩ : name = other.name ∧ considered (table.name, column.name) = true := by simpa using chosen
      split at made
      · cases made
      · next known =>
        cases made
        have listed' : table.hasColumn column.name = true := List.any_eq_true.mpr ⟨column, listed, by simp⟩
        exact ⟨⟨⟨rfl, listed'⟩, ⟨rfl, by simpa using known⟩⟩, column, listed, by simp [reference]⟩

theorem keysBetween_ok (found : table.keysBetween considered other = .ok keys) :
    ∀ key ∈ keys, other.Pairs table key ∨ table.Pairs other key ∧ table.name ≠ other.name ∧ table.RefersTo other.name := by
  obtain ⟨near, held, found⟩ := Except.bind_ok found
  split at found
  · cases found
    exact fun key member => .inl (keysTo_ok held key member).1
  · next different =>
    obtain ⟨far, held', same⟩ := Except.bind_ok found
    cases same
    intro key member
    rcases List.mem_append.mp member with member | member
    · exact .inl (keysTo_ok held key member).1
    · obtain ⟨pairs, refers⟩ := keysTo_ok held' key member
      exact .inr ⟨pairs, different, refers⟩

theorem onlyKey_ok (found : table.onlyKey considered other = .ok key) :
    other.Pairs table key ∨ table.Pairs other key ∧ table.name ≠ other.name ∧ table.RefersTo other.name := by
  obtain ⟨keys, between, found⟩ := Except.bind_ok found
  match keys, found with
  | [only], same =>
    cases same
    exact keysBetween_ok between key (.head _)

/-- A column that a table has spells a key of it. -/
theorem hasColumn_spelled {tables : List ModelTable} {column : String × String} (listed : table ∈ tables)
    (has : column.1 = table.name ∧ table.hasColumn column.2 = true) : Spelled tables table.name (qualified column) := by
  obtain ⟨named, known⟩ := has
  obtain ⟨held, among, same⟩ := List.any_eq_true.mp known
  refine ⟨table, listed, held, among, rfl, ?_⟩
  rw [qualified, named, beq_iff_eq.mp same]

end ModelTable

/-- Whether the sides of a relationship are told rightly: the side of the related rows is named only within one table,
and keys between a table and the pivot table stand in the pivot table. -/
structure Relationship.Oriented (models : List Model) (model : Model) (relationship : Relationship) : Prop where
  side : relationship.pivot = none → relationship.remoteSide ≠ none →
    ∀ target ∈ models, target.className = relationship.target → target.table.name = model.table.name
  held : ∀ pivot ∈ relationship.pivot, ∀ target ∈ models, target.className = relationship.target →
    ∀ table ∈ [model.table, target.table], table.name ≠ pivot → ¬ table.RefersTo pivot

instance (models : List Model) (model : Model) (relationship : Relationship) :
    Decidable (relationship.Oriented models model) :=
  decidable_of_iff (_ ∧ _) ⟨fun both => ⟨both.1, both.2⟩, fun oriented => ⟨oriented.side, oriented.held⟩⟩

namespace Model

variable {models : List Model} {pivots tables : List ModelTable} {model : Model} {relationship : Relationship}
  {own target : ModelTable}

theorem tableOf_ok {className : String} {table : ModelTable} (found : tableOf models className = .ok table) :
    ∃ model ∈ models, model.className = className ∧ model.table = table := by
  unfold tableOf at found
  split at found
  · next model chosen =>
    cases found
    exact ⟨model, List.mem_of_find?_eq_some chosen, by simpa using List.find?_some chosen, rfl⟩
  · cases found

theorem pair_ok {key : ForeignKey} (found : pair models own target relationship = .ok key) :
    target.Pairs own key ∨ own.Pairs target key ∧ own.name ≠ target.name := by
  unfold pair at found
  split at found
  · obtain ⟨holder, held, found⟩ := Except.bind_ok found
    obtain ⟨owner, named, same⟩ := Except.bind_ok found
    cases same
    exact .inl ⟨ModelTable.column_ok held, ModelTable.column_ok named⟩
  · obtain ⟨table, _, found⟩ := Except.bind_ok found
    obtain ⟨holder, _, found⟩ := Except.bind_ok found
    exact (ModelTable.onlyKey_ok found).imp_right fun far => ⟨far.1, far.2.1⟩
  · exact (ModelTable.onlyKey_ok found).imp_right fun far => ⟨far.1, far.2.1⟩

/-- Whether the columns of a link stand on the tables that it joins, and on the pivot table if it has one. -/
def Between (tables : List ModelTable) (own other : String) (pivot : Option String) : Link → Prop
  | .manyToOne foreign owner => pivot = none ∧ Spelled tables own foreign ∧ Spelled tables other owner
  | .oneToMany owner foreign => pivot = none ∧ Spelled tables own owner ∧ Spelled tables other foreign
  | .manyToMany parent pivotParent pivotRelated related =>
    ∃ name, pivot = some name ∧ Spelled tables own parent ∧ Spelled tables name pivotParent ∧
      Spelled tables name pivotRelated ∧ Spelled tables other related

/-- A link has the far column of its pair on the side of the related rows and the other one on the near side. -/
theorem linkOf_ok {key : ForeignKey} {side : Option String} {link : Link}
    (made : linkOf own target side key = .ok link) :
    ∃ near far, (near = key.owner ∧ far = key.holder ∨ near = key.holder ∧ far = key.owner) ∧
      remoteOf own target side key = .ok far ∧
      (link = .manyToOne (qualified near) (qualified far) ∨ link = .oneToMany (qualified near) (qualified far)) := by
  obtain ⟨far, named, made⟩ := Except.bind_ok made
  dsimp only at made
  split at made
  · cases made
  · next one =>
    refine ⟨if far = key.holder then key.owner else key.holder, far, ?_, named, ?_⟩
    · by_cases held : far = key.holder
      · exact .inl ⟨if_pos held, held⟩
      · have owned : far = key.owner := by simpa [held] using one
        exact .inr ⟨if_neg held, owned⟩
    · cases made
      exact ite_eq_or_eq _ _ _

/-- Within one table the sides are of that table, whichever is which; between two tables the far column is the related
one, unless a side is named. -/
theorem linkOf_between {key : ForeignKey} {side : Option String} {link : Link} (ours : own ∈ tables)
    (theirs : target ∈ tables) (sided : side ≠ none → target.name = own.name)
    (pairs : target.Pairs own key ∨ own.Pairs target key ∧ own.name ≠ target.name)
    (made : linkOf own target side key = .ok link) : Between tables own.name target.name none link := by
  obtain ⟨near, far, columns, named, links⟩ := linkOf_ok made
  suffices both : Spelled tables own.name (qualified near) ∧ Spelled tables target.name (qualified far) by
    rcases links with rfl | rfl <;> exact ⟨rfl, both⟩
  by_cases same : own.name = target.name
  · have within := pairs.resolve_right fun far => far.2 same
    have holder := ModelTable.hasColumn_spelled theirs within.holder
    have owner := ModelTable.hasColumn_spelled ours within.owner
    rcases columns with ⟨rfl, rfl⟩ | ⟨rfl, rfl⟩
    · exact ⟨owner, holder⟩
    · exact ⟨same ▸ holder, same ▸ owner⟩
  · obtain rfl : side = none := by
      by_contra named
      exact same (sided named).symm
    have apart : (own.name == target.name) = false := by simpa using same
    rw [remoteOf, apart, Bool.false_or, Except.ok.injEq] at named
    rcases pairs with across | ⟨across, -⟩
    · have holder := ModelTable.hasColumn_spelled theirs across.holder
      have owner := ModelTable.hasColumn_spelled ours across.owner
      rw [across.holder.1, beq_self_eq_true, if_pos rfl] at named
      rcases columns with ⟨rfl, rfl⟩ | ⟨rfl, rfl⟩
      · exact ⟨owner, holder⟩
      · exact absurd (across.owner.1.symm.trans ((congrArg Prod.fst named).symm.trans across.holder.1)) same
    · have holder := ModelTable.hasColumn_spelled ours across.holder
      have owner := ModelTable.hasColumn_spelled theirs across.owner
      rw [across.holder.1, apart, if_neg Bool.false_ne_true] at named
      rcases columns with ⟨rfl, rfl⟩ | ⟨rfl, rfl⟩
      · exact absurd (across.holder.1.symm.trans ((congrArg Prod.fst named).symm.trans across.owner.1)) same
      · exact ⟨holder, owner⟩

/-- Between a table and the pivot table, which holds the key, a pair has a column of each. -/
theorem onlyKey_held {table pivot : ModelTable} {considered : String × String → Bool} {key : ForeignKey}
    (held : table.name ≠ pivot.name → ¬ table.RefersTo pivot.name)
    (found : table.onlyKey considered pivot = .ok key) : pivot.Pairs table key :=
  (ModelTable.onlyKey_ok found).resolve_right fun far => held far.2.1 far.2.2

theorem link_between {link : Link} (member : model ∈ models) (oriented : relationship.Oriented models model)
    (made : model.link models pivots relationship = .ok (target, link)) :
    (∃ other ∈ models, other.className = relationship.target ∧ other.table = target) ∧
      Between (pivots ++ models.map (·.table)) model.table.name target.name relationship.pivot link := by
  have ours : model.table ∈ pivots ++ models.map (·.table) := List.mem_append_right _ (List.mem_map_of_mem member)
  obtain ⟨table, aimed, made⟩ := Except.bind_ok made
  obtain ⟨other, among, named, same⟩ := tableOf_ok aimed
  have theirs : table ∈ pivots ++ models.map (·.table) := by
    rw [← same]
    exact List.mem_append_right _ (List.mem_map_of_mem among)
  dsimp only at made
  split at made
  · next name through =>
    split at made
    · next pivot chosen =>
      obtain ⟨related, held, made⟩ := Except.bind_ok made
      obtain ⟨parent, held', made⟩ := Except.bind_ok made
      cases made
      have listed := List.mem_of_find?_eq_some chosen
      obtain rfl : pivot.name = name := by simpa using List.find?_some chosen
      have apart := oriented.held pivot.name through other among named
      rw [same] at apart
      have right := onlyKey_held (apart target (.tail _ (.head _))) held
      have left := onlyKey_held (apart model.table (.head _)) held'
      refine ⟨⟨other, among, named, same⟩, pivot.name, through, ?_, ?_, ?_, ?_⟩
      · exact ModelTable.hasColumn_spelled ours left.owner
      · exact ModelTable.hasColumn_spelled listed left.holder
      · exact ModelTable.hasColumn_spelled listed right.holder
      · exact ModelTable.hasColumn_spelled theirs right.owner
    · cases made
  · next direct =>
    obtain ⟨key, paired, made⟩ := Except.bind_ok made
    obtain ⟨link', made, same'⟩ := Except.bind_ok made
    cases same'
    refine ⟨⟨other, among, named, same⟩, ?_⟩
    rw [direct]
    have sided : relationship.remoteSide ≠ none → target.name = model.table.name := fun given =>
      same ▸ oriented.side direct given other among named
    exact linkOf_between ours theirs sided (pair_ok paired) made

/-- What a relation has from the relationship of a model that it comes from: it leads to the table of its target, and
its keys stand on the tables that it joins. A key of a polymorphic relation stands on the related table, or on the pivot
table if the relationship has one. -/
def Keyed (models : List Model) (pivots : List ModelTable) (source : String) (relationship : Relationship)
    (relation : Relation) : Prop :=
  (∃ target ∈ models, target.className = relationship.target ∧ relation.table = target.table.name) ∧
    relation.KeysFit (pivots ++ models.map (·.table)) source (relationship.pivot.getD relation.table)

theorem relation_keyed {relation : Relation} (member : model ∈ models) (oriented : relationship.Oriented models model)
    (made : model.relation models pivots relationship = .ok relation) :
    Keyed models pivots model.table.name relationship relation := by
  obtain ⟨⟨target, link⟩, linked, made⟩ := Except.bind_ok made
  obtain ⟨⟨other, among, named, rfl⟩, between⟩ := link_between member oriented linked
  dsimp only at made
  split at made
  · cases made
    refine ⟨⟨other, among, named, rfl⟩, ?_⟩
    cases link with
    | manyToOne foreign owner =>
      obtain ⟨direct, near, far⟩ := between
      rw [direct]
      exact ⟨far, near⟩
    | oneToMany owner foreign =>
      obtain ⟨direct, near, far⟩ := between
      rw [direct]
      exact ⟨far, near⟩
    | manyToMany =>
      obtain ⟨pivot, through, near, far, -⟩ := between
      rw [through]
      exact ⟨far, near⟩
  · cases link with
    | manyToOne foreign owner =>
      cases made
      exact ⟨⟨other, among, named, rfl⟩, between.2⟩
    | oneToMany owner foreign =>
      cases made
      exact ⟨⟨other, among, named, rfl⟩, between.2.2, between.2.1⟩
    | manyToMany =>
      cases made
      obtain ⟨pivot, through, keys⟩ := between
      rw [Keyed, through]
      exact ⟨⟨other, among, named, rfl⟩, rfl, keys⟩

end Model

namespace Registry

theorem lookup_put {α : Type} (key other : String) (value : α) (pairs : List (String × α)) :
    (put key value pairs).lookup other = if other = key then some value else pairs.lookup other := by
  have step (name : String) (old : α) (rest : List (String × α)) :
      ((name, old) :: rest).lookup other = if other = name then some old else rest.lookup other := by
    rw [List.lookup_cons]
    by_cases same : other = name
    · simp [same]
    · rw [if_neg same, beq_eq_false_iff_ne.mpr same]
  induction pairs with
  | nil => exact step key value []
  | cons pair rest ih =>
    obtain ⟨name, old⟩ := pair
    rw [put]
    by_cases here : name = key
    · subst here
      rw [if_pos rfl, step, step]
      split <;> rfl
    · rw [if_neg here, step, step, ih]
      by_cases same : other = name
      · rw [if_pos same, if_neg (same ▸ here), if_pos same]
      · rw [if_neg same, if_neg same]

theorem find_ok_iff {registry : Registry} {table name : String} {relation : Relation} :
    registry.find (some table) name = .ok relation ↔ (registry.ofTable table).lookup name = some relation := by
  rw [find, Option.bind_some]
  cases (registry.ofTable table).lookup name <;> simp

/-- What is found after one more relation is registered is that one or was found before. -/
theorem find_register {registry : Registry} {table name source key : String} {relation other : Relation}
    (found : (registry.register table name relation).find (some source) key = .ok other) :
    source = table ∧ key = name ∧ other = relation ∨ registry.find (some source) key = .ok other := by
  rw [find_ok_iff, register, ofTable, lookup_put] at found
  rw [find_ok_iff]
  by_cases here : source = table
  · subst here
    rw [if_pos rfl, Option.getD_some, lookup_put] at found
    by_cases same : key = name
    · rw [if_pos same, Option.some.injEq] at found
      exact .inl ⟨rfl, same, found.symm⟩
    · rw [if_neg same] at found
      exact .inr found
  · rw [if_neg here] at found
    exact .inr found

/-- Whether every relation of a registry is of a kind, given its table and its name. -/
def All (registry : Registry) (holds : String → String → Relation → Prop) : Prop :=
  ∀ source name relation, registry.find (some source) name = .ok relation → holds source name relation

variable {holds : String → String → Relation → Prop} {registry : Registry}

theorem All.register {table name : String} {relation : Relation} (all : registry.All holds)
    (one : holds table name relation) : (registry.register table name relation).All holds := by
  intro source key other found
  rcases find_register found with ⟨rfl, rfl, rfl⟩ | before
  · exact one
  · exact all source key other before

theorem All.registerAll {table : String} {relations : List (String × Relation)} (all : registry.All holds)
    (each : ∀ pair ∈ relations, holds table pair.1 pair.2) : (registry.registerAll table relations).All holds := by
  unfold Registry.registerAll
  induction relations generalizing registry with
  | nil => exact all
  | cons pair rest ih =>
    obtain ⟨one, others⟩ := List.forall_mem_cons.mp each
    exact ih (all.register one) others

/-- The relations of one model after another. -/
theorem All.registerModels {models chosen : List Model} {pivots : List ModelTable} {final : Registry}
    (all : registry.All holds)
    (each : ∀ model ∈ chosen, ∀ relations, model.relations models pivots = .ok relations →
      ∀ pair ∈ relations, holds model.table.name pair.1 pair.2)
    (made : chosen.foldlM (fun registry model =>
      return registry.registerAll model.table.name (← model.relations models pivots)) registry = .ok final) :
    final.All holds := by
  induction chosen generalizing registry with
  | nil =>
    cases made
    exact all
  | cons model rest ih =>
    obtain ⟨one, others⟩ := List.forall_mem_cons.mp each
    rw [List.foldlM_cons] at made
    obtain ⟨grown, registered, made⟩ := Except.bind_ok made
    obtain ⟨relations, read, same⟩ := Except.bind_ok registered
    cases same
    exact ih (all.registerAll (one relations read)) others made

/-- Whether the relations along a path are all of a kind, given the name of each and the table that the one before it
leads to. -/
def LeadOn (holds : String → String → Relation → Prop) : String → List String → List Relation → Prop
  | _, [], [] => True
  | source, name :: names, relation :: rest => holds source name relation ∧ LeadOn holds relation.table names rest
  | _, _, _ => False

theorem All.leadOn {source : String} {names : List String} {relations : List Relation} (all : registry.All holds)
    (walked : registry.walkFrom (some source) names = .ok relations) : LeadOn holds source names relations := by
  induction names generalizing source relations with
  | nil =>
    cases walked
    trivial
  | cons name rest ih =>
    obtain ⟨relation, others, rfl, found, more⟩ := walkFrom_cons walked
    exact ⟨all source name relation found, ih more⟩

variable {models : List Model} {pivots : List ModelTable} {classes : List String}

/-- A registry of models holds the relations of some of them, one after another. -/
theorem ofModels_ok (made : ofModels models pivots classes = .ok registry) :
    ∃ chosen : List Model, (∀ model ∈ chosen, model ∈ models) ∧
      chosen.foldlM (fun (registry : Registry) model =>
        return registry.registerAll model.table.name (← model.relations models pivots)) ({} : Registry) =
          .ok registry := by
  obtain ⟨_, _, made⟩ := Except.bind_ok made
  split at made
  · cases made
  · obtain ⟨chosen, named, made⟩ := Except.bind_ok made
    refine ⟨chosen, fun model member => ?_, ?_⟩
    · obtain ⟨className, -, found⟩ := Except.mapM_mem named model member
      split at found
      · next selected =>
        cases found
        exact List.mem_of_find?_eq_some selected
      · cases found
    · split at made
      · next none =>
        cases made
        rw [List.isEmpty_iff.mp none]
        rfl
      · obtain ⟨_, _, made⟩ := Except.bind_ok made
        exact made

/-- Whether a relation comes from a relationship of the model whose table it is registered under. -/
def ReadOff (models : List Model) (pivots : List ModelTable) (source name : String) (relation : Relation) : Prop :=
  ∃ model ∈ models, ∃ relationship ∈ model.relationships, model.table.name = source ∧ relationship.name = name ∧
    Model.Keyed models pivots source relationship relation

/-- Every relation that is read off models leads to the table of its target, and each of its keys is a column of the
table on its side: the source, the related table, or the pivot table. So along a path each relation goes by keys of the
table before it and of its own tables. A relation that is marked as polymorphic and goes through a pivot table has the
key there which should be on the related table. -/
theorem ofModels_keys
    (oriented : ∀ model ∈ models, ∀ relationship ∈ model.relationships, relationship.Oriented models model)
    (made : ofModels models pivots classes = .ok registry) :
    registry.All (ReadOff models pivots) ∧
      ∀ main path relations, registry.walk (some main) path = .ok relations →
        LeadOn (ReadOff models pivots) main (Text.splitString '.' path) relations := by
  obtain ⟨chosen, among, registered⟩ := ofModels_ok made
  have start : ({} : Registry).All (ReadOff models pivots) := fun _ _ _ found => nomatch found
  have all : registry.All (ReadOff models pivots) := by
    refine start.registerModels (fun model member relations listed pair inside => ?_) registered
    obtain ⟨relationship, own, named⟩ := Except.mapM_mem listed pair inside
    obtain ⟨relation, built, same⟩ := Except.bind_ok named
    cases same
    have listed := among model member
    exact ⟨model, listed, relationship, own, rfl, rfl, Model.relation_keyed listed (oriented _ listed _ own) built⟩
  exact ⟨all, fun main path relations walked => all.leadOn walked⟩

/-- Products in categories below one another, with tags behind a pivot table and comments that other tables have too. The
labels are tags again, by a relationship that is marked as polymorphic. -/
private def stock : List Model :=
  [{ className := "Product"
     table := ⟨"products", [⟨"id", true, none⟩, ⟨"category_id", false, some ("categories", "id")⟩]⟩
     relationships :=
      [⟨"category", "Category", none, none, none, none, []⟩,
        ⟨"tags", "Tag", some "product_tags", none, none, none, []⟩,
        ⟨"labels", "Tag", some "product_tags", none, none, none, [("morph_type", .text "tags.kind")]⟩,
        ⟨"comments", "Comment", none, some ("id", "owner_id"), none, none,
          [("morph_type", .text "comments.owner_type"), ("morph_class", .text "product")]⟩] },
    { className := "Category"
      table := ⟨"categories", [⟨"id", true, none⟩, ⟨"parent_id", false, some ("categories", "id")⟩]⟩
      relationships :=
        [⟨"parent", "Category", none, none, none, some "id", []⟩, ⟨"products", "Product", none, none, none, none, []⟩] },
    { className := "Tag"
      table := ⟨"tags", [⟨"id", true, none⟩, ⟨"kind", false, none⟩]⟩
      relationships := [] },
    { className := "Comment"
      table := ⟨"comments", [⟨"id", true, none⟩, ⟨"owner_id", false, none⟩, ⟨"owner_type", false, none⟩]⟩
      relationships := [] }]

private def stockPivots : List ModelTable :=
  [⟨"product_tags", [⟨"product_id", true, some ("products", "id")⟩, ⟨"tag_id", true, some ("tags", "id")⟩]⟩]

private def category : Relation := .belongsTo "categories" "products.category_id" "categories.id"

private def parent : Relation := .belongsTo "categories" "categories.parent_id" "categories.id"

private def labels : Relation :=
  .polymorphic "tags" "product_tags.product_id" "products.id" (some "tags.kind") (.text "Product")

private def stockRegistry : Registry where
  tables :=
    [("products",
        [("category", category),
          ("tags", .belongsToMany "tags" "product_tags" "products.id" "product_tags.product_id" "product_tags.tag_id"
            "tags.id"),
          ("labels", labels),
          ("comments", .polymorphic "comments" "comments.owner_id" "products.id" (some "comments.owner_type")
            (.text "product"))]),
      ("categories",
        [("parent", parent), ("products", .hasMany "products" "products.category_id" "categories.id")])]

theorem ofModels_keys_stock :
    (∀ model ∈ stock, ∀ relationship ∈ model.relationships, relationship.Oriented stock model) ∧
      ofModels stock stockPivots ["Product", "Category"] = .ok stockRegistry ∧
      stockRegistry.walk (some "products") "category.parent" = .ok [category, parent] ∧
      LeadOn (ReadOff stock stockPivots) "products" ["category", "parent"] [category, parent] ∧
      ReadOff stock stockPivots "products" "labels" labels ∧
      ¬ labels.KeysFit (stockPivots ++ stock.map (·.table)) "products" labels.table := by
  have oriented : ∀ model ∈ stock, ∀ relationship ∈ model.relationships, relationship.Oriented stock model := by decide
  have made : ofModels stock stockPivots ["Product", "Category"] = .ok stockRegistry := by rfl
  have names : Text.splitString '.' "category.parent" = ["category", "parent"] := by decide
  have walked : stockRegistry.walk (some "products") "category.parent" = .ok [category, parent] := by
    rw [walk, names]
    rfl
  obtain ⟨all, along⟩ := ofModels_keys oriented made
  have led := along "products" "category.parent" [category, parent] walked
  rw [names] at led
  exact ⟨oriented, made, walked, led, all "products" "labels" labels rfl, by decide⟩

end Registry

end DataGrid
