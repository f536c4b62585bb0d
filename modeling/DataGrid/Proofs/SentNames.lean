import DataGrid.Proofs.PathLiterals
import DataGrid.Proofs.SortTexts

/-! Names behind a driver that reads two percent signs as one. A percent sign of a name is doubled where the name is
quoted, and once more where the expression is written, in a condition as in an order; the driver takes one doubling
back. So the database reads every percent sign of the name twice, and a name without any as it was asked for. -/

namespace DataGrid

open Sql

namespace Text

variable {c d : Char}

/-- Collapsing goes on anew at any other character. -/
theorem undoubled_append (other : d ≠ c) (front rest : List Char) :
    undoubled c (front ++ d :: rest) = undoubled c front ++ undoubled c (d :: rest) := by
  fun_induction undoubled c front with
  | case1 e f more pair ih =>
    rw [List.cons_append, List.cons_append, undoubled, if_pos pair, ih]
    rfl
  | case2 e f more single ih =>
    rw [List.cons_append, List.cons_append, undoubled, if_neg single]
    exact congrArg (e :: ·) ih
  | case3 chars short =>
    cases chars with
    | nil => rfl
    | cons e more =>
      cases more with
      | nil =>
        rw [List.singleton_append, undoubled, if_neg fun pair => other pair.2]
        rfl
      | cons f more => exact absurd rfl (short e f more)

theorem undoubled_doubled_append (c : Char) (chars rest : List Char) :
    undoubled c (doubled c chars ++ rest) = chars ++ undoubled c rest := by
  induction chars with
  | nil => rfl
  | cons d chars ih =>
    by_cases same : d = c
    · subst same
      rw [doubled_same, List.cons_append, List.cons_append, undoubled, if_pos ⟨rfl, rfl⟩, ih]
      rfl
    · rw [doubled_other same, List.cons_append, undoubled_other same, ih]
      rfl

theorem length_doubled (c : Char) (chars : List Char) : (doubled c chars).length = chars.length + chars.count c := by
  induction chars with
  | nil => rfl
  | cons d rest ih =>
    by_cases same : d = c
    · subst same
      rw [doubled_same, List.length_cons, List.length_cons, List.length_cons, List.count_cons_self, ih]
      omega
    · rw [doubled_other same, List.length_cons, List.length_cons, List.count_cons_of_ne same, ih]
      omega

theorem doubled_eq_self (c : Char) (chars : List Char) : doubled c chars = chars ↔ c ∉ chars := by
  constructor
  · intro same
    have lengths := length_doubled c chars
    rw [same, Nat.left_eq_add, List.count_eq_zero] at lengths
    exact lengths
  · intro free
    have single : ∀ d ∈ chars, (if d = c then [d, d] else [d]) = [d] := by
      intro d inside
      exact if_neg fun same : d = c => free (same ▸ inside)
    rw [doubled, List.flatMap_congr single, List.flatMap_singleton']

theorem segments_doubled {separator : Char} (other : c ≠ separator) (chars : List Char) :
    segments separator (doubled c chars) = (segments separator chars).map (doubled c) := by
  induction chars with
  | nil => rfl
  | cons d rest ih =>
    obtain ⟨first, others, found⟩ := List.exists_cons_of_ne_nil (segments_ne_nil separator rest)
    rw [found, List.map_cons] at ih
    by_cases same : d = c
    · subst same
      rw [doubled_same, segments, if_neg other, segments, if_neg other, ih, segments, if_neg other, found,
        List.map_cons, doubled_same]
    · rw [doubled_other same, segments, segments, ih, found]
      split
      · rfl
      · rw [List.map_cons, doubled_other same]

end Text

namespace Sql.Dialect

variable {dialect : Dialect}

/-- The database behind the driver: nothing is doubled for it. -/
def database (dialect : Dialect) : Dialect := { dialect with doublesPercent := false }

theorem percent_eq_doubled (dialect : Dialect) (chars : List Char) :
    dialect.percent chars = if dialect.doublesPercent then Text.doubled '%' chars else chars := dialect.percent_eq chars

theorem percent_eq_self (dialect : Dialect) (chars : List Char) :
    dialect.percent chars = chars ↔ dialect.doublesPercent = false ∨ '%' ∉ chars := by
  rw [percent_eq_doubled]
  split
  · next doubles => simp [doubles, Text.doubled_eq_self]
  · next single => simp [single]

theorem segments_percent (dialect : Dialect) (name : List Char) :
    Text.segments '.' (dialect.percent name) = (Text.segments '.' name).map dialect.percent := by
  have doubled : dialect.percent = if dialect.doublesPercent then Text.doubled '%' else id := by
    funext chars
    rw [percent_eq_doubled]
    split <;> rfl
  rw [doubled]
  split
  · exact Text.segments_doubled (by decide) name
  · exact (List.map_id _).symm

theorem Delimits.database (delimits : dialect.Delimits) : dialect.database.Delimits :=
  ⟨⟨delimits.illegal, delimits.point⟩, delimits.percent, delimits.feed, delimits.sign⟩

theorem needsQuotes_percent {segment : List Char} (inside : '%' ∈ segment) : dialect.needsQuotes segment = true := by
  by_contra unquoted
  obtain ⟨name, _, legal, same⟩ := (bare_of_unquoted (Bool.eq_false_iff.mpr unquoted)).legal
  have outside : '%' ∉ name := fun sign => absurd (legal '%' sign) (by decide)
  rcases same with rfl | rfl
  · exact outside inside
  · simp [outside] at inside

/-- The database is asked for a segment with its percent signs doubled. -/
theorem segment_database (delimits : dialect.Delimits) (segment : List Char) :
    dialect.database.segment (dialect.percent segment) = dialect.segment segment := by
  have quotes : dialect.database.needsQuotes (dialect.percent segment) = dialect.needsQuotes segment := by
    by_cases inside : '%' ∈ segment
    · rw [needsQuotes_percent inside, needsQuotes_percent (mem_percent.mpr inside)]
    · rw [(percent_eq_self dialect segment).mpr (.inr inside)]
      rfl
  have written : dialect.database.quoteSegment (dialect.percent segment) = dialect.quoteSegment segment := by
    rw [quoteSegment, quoteSegment, percent_doubled delimits]
    rfl
  rw [Dialect.segment, Dialect.segment, quotes, written]
  split
  · rfl
  · next unquoted =>
    have outside : '%' ∉ segment := fun inside => unquoted (needsQuotes_percent inside)
    exact (percent_eq_self dialect segment).mpr (.inr outside)

theorem identifierChars_database (delimits : dialect.Delimits) (name : List Char) :
    dialect.database.identifierChars (dialect.percent name) = dialect.identifierChars name := by
  rw [identifierChars, segments_percent, List.map_map, identifierChars]
  congr 2
  funext segment
  exact segment_database delimits segment

theorem head_of_readName {chars : List Char} {found : List (List Char) × List Char}
    (read : dialect.readName chars = some found) :
    ∃ c rest, chars = c :: rest ∧ (c = dialect.quote ∨ isLegalChar c = true) := by
  cases chars with
  | nil => cases read
  | cons c rest =>
    refine ⟨c, rest, rfl, ?_⟩
    by_contra neither
    rw [not_or] at neither
    have none : dialect.readSegment (c :: rest) = none := by
      rw [readSegment, if_neg neither.1, if_neg neither.2]
    rw [readName, List.length_cons, readSegments, none] at read
    cases read

theorem EndsName.nil : dialect.EndsName [] := ⟨nofun, nofun⟩

theorem unpercent_nil (dialect : Dialect) : dialect.unpercent [] = [] := by
  rw [unpercent]
  split <;> rfl

theorem unpercent_append {c : Char} (other : c ≠ '%') (front rest : List Char) :
    dialect.unpercent (front ++ c :: rest) = dialect.unpercent front ++ dialect.unpercent (c :: rest) := by
  rw [unpercent, unpercent, unpercent]
  split
  · exact Text.undoubled_append other front rest
  · rfl

theorem unpercent_percent_append (dialect : Dialect) (chars rest : List Char) :
    dialect.unpercent (dialect.percent chars ++ rest) = chars ++ dialect.unpercent rest := by
  rw [percent_eq_doubled, unpercent, unpercent]
  split
  · exact Text.undoubled_doubled_append '%' chars rest
  · rfl

/-- The name in a text that is written with its percent signs doubled leaves the driver as it was quoted. -/
theorem unpercent_around (delimits : dialect.Delimits) (front name behind before after : List Char) :
    dialect.unpercent (before ++ dialect.percent (front ++ dialect.identifierChars name ++ behind) ++ after) =
      dialect.unpercent (before ++ dialect.percent front) ++
        (dialect.identifierChars name ++ (behind ++ dialect.unpercent after)) := by
  -- A quoted name starts with a quote or a letter, so no pair of percent signs reaches over its start.
  obtain ⟨c, rest, start, first⟩ := head_of_readName (readName_identifierChars delimits name EndsName.nil)
  rw [List.append_nil] at start
  have other : c ≠ '%' := by
    rintro rfl
    rcases first with same | legal
    · exact delimits.percent same.symm
    · exact absurd legal (by decide)
  have single : dialect.percent [c] = [c] := (percent_eq_self dialect [c]).mpr (.inr (by simpa using other.symm))
  have quoted : dialect.percent (dialect.identifierChars name) = c :: dialect.percent rest := by
    rw [start, ← List.singleton_append, percent_append, single]
    rfl
  calc dialect.unpercent (before ++ dialect.percent (front ++ dialect.identifierChars name ++ behind) ++ after)
    _ = dialect.unpercent (before ++ dialect.percent front ++ c :: (dialect.percent rest ++
          (dialect.percent behind ++ after))) := by
      simp only [percent_append, quoted, List.append_assoc, List.cons_append]
    _ = dialect.unpercent (before ++ dialect.percent front) ++
          dialect.unpercent (dialect.percent (dialect.identifierChars name) ++ (dialect.percent behind ++ after)) := by
      rw [unpercent_append other, quoted, List.cons_append]
    _ = _ := by rw [unpercent_percent_append, unpercent_percent_append]

/-- The database reads what was quoted for its driver with the percent signs doubled. -/
theorem readName_database (delimits : dialect.Delimits) (name : List Char) {rest : List Char}
    (ends : dialect.EndsName rest) :
    dialect.database.readName (dialect.identifierChars name ++ rest) =
      some ((Text.segments '.' name).map dialect.percent, rest) := by
  rw [← identifierChars_database delimits, ← segments_percent]
  exact readName_identifierChars delimits.database _ ends

/-- Whether the database gets a name from a text of a statement, behind `front` as it is written there and before
`behind` as it is sent, whatever stands around the text. -/
def Denotes (dialect : Dialect) (front behind text : List Char) (segments : List (List Char)) : Prop :=
  ∀ before after, dialect.EndsName (behind ++ dialect.unpercent after) → ∃ sent,
    dialect.unpercent (before ++ text ++ after) = dialect.unpercent (before ++ front) ++ sent ∧
      dialect.database.readName sent = some (segments, behind ++ dialect.unpercent after)

/-- A text that has a name quoted and its percent signs doubled once more: the database gets the name with its percent
signs doubled, so the one that was meant only if that changes nothing. -/
structure SendsDoubled (dialect : Dialect) (front behind text name : List Char) : Prop where
  doubled : dialect.Denotes front behind text ((Text.segments '.' name).map dialect.percent)
  meant : dialect.Denotes front behind text (Text.segments '.' name) ↔ dialect.doublesPercent = false ∨ '%' ∉ name

theorem sendsDoubled (delimits : dialect.Delimits) (front name : List Char) {behind : List Char}
    (ends : dialect.EndsName behind) :
    dialect.SendsDoubled (dialect.percent front) behind
      (dialect.percent (front ++ dialect.identifierChars name ++ behind)) name := by
  have doubled : dialect.Denotes (dialect.percent front) behind
      (dialect.percent (front ++ dialect.identifierChars name ++ behind))
      ((Text.segments '.' name).map dialect.percent) :=
    fun before after ends =>
      ⟨_, unpercent_around delimits front name behind before after, readName_database delimits name ends⟩
  refine ⟨doubled, ?_⟩
  rw [← percent_eq_self, ← (Text.segments_injective '.').eq_iff, segments_percent]
  constructor
  · intro asked
    have ends : dialect.EndsName (behind ++ dialect.unpercent []) := by rwa [unpercent_nil, List.append_nil]
    obtain ⟨_, same, found⟩ := asked [] [] ends
    rw [unpercent_around delimits, List.append_cancel_left_eq] at same
    rw [← same, readName_database delimits name ends] at found
    exact congrArg Prod.fst (Option.some.inj found)
  · intro same
    rw [same] at doubled
    exact doubled

end Sql.Dialect

/-- What the template that puts nulls last has before its first place. -/
def Config.nullsLastFront (config : Config) : List Char :=
  match config.nullsLastSql with
  | .text template => (Template.stretches template.toList).headD []
  | _ => []

/-- What stands in a sort term before its name: nothing, unless a template puts nulls last. -/
def Config.sortFront (config : Config) (term : OrderTerm) : List Char :=
  match term.jsonPath with
  | .null => if config.nullsLast.truthy then config.nullsLastFront else []
  | _ => []

/-- Whether the template, if it is used, sets a name apart from what stands behind it. -/
def Config.SetsApart (config : Config) (dialect : Dialect) : Prop :=
  config.nullsLast.truthy = true → ∀ template, config.nullsLastSql = .text template →
    ∀ between ∈ (Template.stretches template.toList)[1]?, ∀ more, dialect.EndsName (between ++ more)

theorem Config.sortFront_null (config : Config) {term : OrderTerm} (plain : term.jsonPath = .null) :
    config.sortFront term = if config.nullsLast.truthy then config.nullsLastFront else [] := by
  rw [sortFront, plain]

theorem Config.sortFront_path (config : Config) {term : OrderTerm} (json : term.jsonPath ≠ .null) :
    config.sortFront term = [] := by
  unfold sortFront
  split
  · next none => exact absurd none json
  · rfl

namespace RowOrder

variable {config : Config} {adapter : Adapter}

theorem jsonPathOf_ends (delimits : adapter.dialect.Delimits) {name written : String} {path : Value}
    (read : adapter.jsonPathOf name path = .ok written) :
    ∃ behind, written = adapter.quoteIdentifier name ++ behind ∧
      ∀ more, adapter.dialect.EndsName (behind.toList ++ more) := by
  obtain ⟨steps, made⟩ : ∃ steps, adapter.jsonPath name steps = .ok written := by
    unfold Adapter.jsonPathOf at read
    split at read
    · exact ⟨_, read⟩
    · cases read
    · cases read
    · cases read
    · exact ⟨_, read⟩
  cases supported : adapter.family.pathForm? with
  | none =>
    unfold Adapter.jsonPath at made
    unfold Family.pathForm? at supported
    split at made
    · next family => rw [family] at supported; cases supported
    · next family => rw [family] at supported; cases supported
    · cases made
  | some form =>
    rw [Adapter.jsonPath_eq supported] at made
    cases made
    refine ⟨_, String.append_assoc .., fun more => ?_⟩
    rw [String.toList_append, List.append_assoc]
    exact Adapter.sign_endsName delimits supported _

/-- A direction behind a name ends it. -/
theorem blank_endsName (known : adapter.dialect ∈ Dialect.all) (more : List Char) :
    adapter.dialect.EndsName (' ' :: more) := by
  have quote : ' ' ≠ adapter.dialect.quote := by
    revert known
    generalize adapter.dialect = dialect
    revert dialect
    decide
  refine ⟨?_, by simp⟩
  rintro _ ⟨⟩
  exact ⟨by decide, quote, by decide⟩

/-- Whether a raw text has a name behind `front`, quoted and apart from what follows, and how the database gets it. -/
def SendsName (adapter : Adapter) (front : List Char) (sql name : String) : Prop :=
  ∃ behind, sql.toList = front ++ (adapter.quoteIdentifier name).toList ++ behind ∧
    (∀ more, adapter.dialect.EndsName (behind ++ more)) ∧
    adapter.dialect.SendsDoubled (adapter.dialect.percent front) behind (adapter.dialect.plain sql).toList name.toList

theorem SendsName.of_ends (known : adapter.dialect ∈ Dialect.all) {front : List Char} (behind : List Char)
    {sql name : String} (written : sql.toList = front ++ (adapter.quoteIdentifier name).toList ++ behind)
    (ends : ∀ more, adapter.dialect.EndsName (behind ++ more)) : SendsName adapter front sql name := by
  refine ⟨behind, written, ends, ?_⟩
  have ended := ends []
  rw [List.append_nil] at ended
  rw [Adapter.quoteIdentifier, Dialect.identifier, String.toList_ofList] at written
  rw [Dialect.plain, String.toList_ofList, written]
  exact Dialect.sendsDoubled (Dialect.all_delimit _ known) front name.toList ended

theorem SendsName.of_path (known : adapter.dialect ∈ Dialect.all) {name written : String} {path : Value}
    (read : adapter.jsonPathOf name path = .ok written) (rest : String) :
    SendsName adapter [] (written ++ rest) name := by
  obtain ⟨behind, rfl, ends⟩ := jsonPathOf_ends (Dialect.all_delimit _ known) read
  refine .of_ends known (behind.toList ++ rest.toList) ?_ fun more => ?_
  · simp
  · rw [List.append_assoc]
    exact ends _

theorem SendsName.text (known : adapter.dialect ∈ Dialect.all) {front : List Char} {sql name : String}
    (sends : SendsName adapter front sql name) :
    SortTerm.pieces adapter.dialect (.text sql) = [.text (adapter.dialect.plain sql)] := by
  obtain ⟨behind, written, _, _⟩ := sends
  have some : sql ≠ "" := by
    rintro rfl
    obtain ⟨c, rest, start, _⟩ := Dialect.head_of_readName
      (Dialect.readName_identifierChars (Dialect.all_delimit _ known) name.toList Dialect.EndsName.nil)
    rw [List.append_nil] at start
    rw [Adapter.quoteIdentifier, Dialect.identifier, String.toList_ofList, start] at written
    simp at written
  rw [SortTerm.pieces, if_neg some]

theorem SendsName.of_fill (known : adapter.dialect ∈ Dialect.all) {template name direction filled : String}
    (plain : Template.isPlain template.toList = true)
    (apart : ∀ between ∈ (Template.stretches template.toList)[1]?, ∀ more, adapter.dialect.EndsName (between ++ more))
    (done : Template.fill template [adapter.quoteIdentifier name, direction] = .ok filled) :
    SendsName adapter ((Template.stretches template.toList).headD []) filled name := by
  obtain ⟨chars, found, same⟩ := Except.bind_ok done
  cases same
  have enough : template.toList.length < template.length + 1 := by
    rw [String.length_toList]
    exact Nat.lt_succ_self _
  obtain ⟨many, rfl⟩ := Template.fillFrom_plain enough plain found
  match cut : Template.stretches template.toList with
  | [before, between, after] =>
    rw [cut] at apart
    refine .of_ends known (between ++ (direction.toList ++ after)) ?_ fun more => ?_
    · simp [Template.weave]
    · rw [List.append_assoc]
      exact apart between rfl _
  | [] | [_] | [_, _] | _ :: _ :: _ :: _ :: _ =>
    rw [cut] at many
    simp at many

/-- The expression of a column and the sort term of a name, wherever they stand in a statement, ask the database for the
name with its percent signs doubled; that is the column that was meant exactly if there are none, or if the driver
leaves them alone. -/
theorem termSql_denotes (known : adapter.dialect ∈ Dialect.all) (plain : config.PlainNullsLast)
    (apart : config.SetsApart adapter.dialect) (name : String) :
    adapter.dialect.SendsDoubled [] [] (adapter.dialect.expr (adapter.column name)).toList name.toList ∧
      ∀ term sql, termSql config adapter name term = .ok sql →
        SortTerm.pieces adapter.dialect (.text sql) = [.text (adapter.dialect.plain sql)] ∧
          SendsName adapter (config.sortFront term) sql name ∧
          ∀ other, term.jsonPath ≠ .null → term.fallback.toColumnName = .ok other →
            ∃ front, SendsName adapter front sql other := by
  have delimits := Dialect.all_delimit _ known
  constructor
  · have column := Dialect.sendsDoubled delimits [] name.toList Dialect.EndsName.nil
    rw [(Dialect.percent_eq_self _ []).mpr (.inr List.not_mem_nil), List.nil_append, List.append_nil] at column
    rw [Adapter.column, Dialect.expr, Dialect.plain, String.toList_ofList, Adapter.quoteIdentifier, Dialect.identifier,
      String.toList_ofList]
    exact column
  · intro term sql made
    have written := termSql_writes made
    have sends : SendsName adapter (config.sortFront term) sql name := by
      cases written with
      | name json last =>
        rw [config.sortFront_null json, if_neg (by simp [last])]
        refine .of_ends known (' ' :: (directionWord term.descending).toList) ?_ fun more => ?_
        · simp
        · exact blank_endsName known _
      | placed json last given done =>
        rw [config.sortFront_null json, if_pos last, Config.nullsLastFront, given]
        exact .of_fill known (plain last _ given) (apart last _ given) done
      | path json fallback read =>
        rw [config.sortFront_path json, String.append_assoc]
        exact .of_path known read _
      | either json _ read =>
        simp only [config.sortFront_path json, String.append_assoc]
        exact .of_path known read _
    refine ⟨sends.text known, sends, fun other json named => ?_⟩
    cases written with
    | name none | placed none => exact absurd none json
    | path _ none read =>
      rw [none] at named
      cases named
    | @either written _ _ _ read found =>
      cases named.symm.trans found
      refine ⟨(written ++ " " ++ directionWord term.descending ++ ", ").toList,
        .of_ends known (' ' :: (directionWord term.descending).toList) ?_ fun more => ?_⟩
      · simp
      · exact blank_endsName known _

/-- PostgreSQL is asked for a column with two percent signs in its name in place of one, when it is searched and when
rows are sorted by it. -/
theorem termSql_denotes_percent :
    let adapter := Adapter.ofDialect .postgresql false
    let config : Config := {}
    let term : OrderTerm := ⟨"a%b", .null, .null, true⟩
    let column := adapter.dialect.expr (adapter.column "a%b")
    let sql := "\"a%%b\" desc"
    adapter.dialect ∈ Dialect.all ∧ config.PlainNullsLast ∧ config.SetsApart adapter.dialect ∧
      column = "\"a%%%%b\"" ∧ termSql config adapter "a%b" term = .ok sql ∧
      adapter.dialect.Denotes [] [] column.toList ["a%%b".toList] ∧
      ¬adapter.dialect.Denotes [] [] column.toList ["a%b".toList] ∧ SendsName adapter [] sql "a%b" := by
  intro adapter config term column sql
  have known : adapter.dialect ∈ Dialect.all := by simp [adapter, Adapter.ofDialect, Dialect.all]
  have off : config.nullsLast.truthy ≠ true := by decide
  have plain : config.PlainNullsLast := fun on => absurd on off
  have apart : config.SetsApart adapter.dialect := fun on => absurd on off
  have made : termSql config adapter "a%b" term = .ok sql := by decide +kernel
  obtain ⟨sent, sorted⟩ := termSql_denotes known plain apart "a%b"
  have doubles : ¬(adapter.dialect.doublesPercent = false ∨ '%' ∉ "a%b".toList) := by decide
  exact ⟨known, plain, apart, by decide +kernel, made, sent.doubled, fun meant => doubles (sent.meant.mp meant),
    (sorted term sql made).2.1⟩

end RowOrder

end DataGrid
