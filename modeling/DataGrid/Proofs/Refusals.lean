import DataGrid.Proofs.JsonLimits

/-! Refusals of a request. A step of reading it ends as it should when it comes to a value or refuses the request; what
else can go wrong is a value without a text, a number that is no integer because it has no bounds, or a text that cannot
be decoded. Each step is served exactly when none of this stands in its way. -/

namespace DataGrid

/-- Whether a step ends as it should: with a good value, or with a refusal of the request. -/
def Served {α : Type} (good : α → Prop) : Except Error α → Prop
  | .ok value => good value
  | .error failure => failure.kind = .request

/-- Whether a check lets through just what fits; what it stops is no refusal of the request. -/
inductive Checks (fits : Prop) : Except Error Unit → Prop where
  | passed (held : fits) : Checks fits (.ok ())
  | stopped {failure} (missed : ¬fits) (other : failure.kind ≠ .request) : Checks fits (.error failure)

section Served
variable {α β : Type} {good : β → Prop}

@[simp] theorem served_ok (value : β) : Served good (.ok value) ↔ good value := Iff.rfl

@[simp] theorem served_pure (value : β) : Served good (pure value) ↔ good value := Iff.rfl

@[simp] theorem served_error (failure : Error) : Served good (.error failure) ↔ failure.kind = .request := Iff.rfl

@[simp] theorem served_throw (failure : Error) : Served good (throw failure) ↔ failure.kind = .request := Iff.rfl

theorem served_bind (first : Except Error α) (next : α → Except Error β) :
    Served good (first >>= next) ↔
      Served (fun _ => True) first ∧ ∀ value, first = .ok value → Served good (next value) := by
  cases first with
  | error failure => exact ⟨fun served => ⟨served, nofun⟩, And.left⟩
  | ok value =>
    constructor
    · rintro served
      refine ⟨trivial, ?_⟩
      rintro _ ⟨⟩
      exact served
    · rintro ⟨_, served⟩
      exact served value rfl

theorem served_map (first : Except Error α) (f : α → β) :
    Served good (f <$> first) ↔ Served (fun value => good (f value)) first := by
  cases first <;> rfl

theorem served_and (result : Except Error β) :
    Served good result ↔ Served (fun _ => True) result ∧ ∀ value, result = .ok value → good value := by
  simpa only [bind_pure, served_pure] using served_bind result (pure : β → Except Error β)

end Served

namespace Checks

variable {fits more : Prop} {check other : Except Error Unit}

theorem congr (checks : Checks fits check) (same : fits ↔ more) : Checks more check := by
  rwa [propext same] at checks

theorem bind (checks : Checks fits check) (others : Checks more other) :
    Checks (fits ∧ more) (check >>= fun _ => other) := by
  cases checks with
  | stopped missed apart => exact .stopped (fun both => missed both.1) apart
  | passed held =>
    cases others with
    | stopped missed apart => exact .stopped (fun both => missed both.2) apart
    | passed more => exact .passed ⟨held, more⟩

theorem served_bind {α : Type} {good : α → Prop} (checks : Checks fits check) (next : Except Error α) :
    Served good (check >>= fun _ => next) ↔ fits ∧ Served good next := by
  cases checks with
  | stopped missed apart => exact ⟨fun served => absurd served apart, fun both => absurd both.1 missed⟩
  | passed held => exact ⟨fun served => ⟨held, served⟩, And.right⟩

end Checks

/-! ### Checks of a text -/

namespace Value

theorem checkDigits_checks (long : Bool) :
    Checks (long = false) (if long then .error (.badValue (digitLimitReason none)) else .ok ()) := by
  cases long with
  | true => exact .stopped nofun nofun
  | false => exact .passed rfl

theorem checkLevel_checks {depth : Nat} {fits : Prop} {check : Except Error Unit} (checks : Checks fits check) :
    Checks (depth < stepLimit ∧ fits) (if depth < stepLimit then check else .error .tooDeep) := by
  split
  · next shallow => exact checks.congr (by simp [shallow])
  · next deep => exact .stopped (fun both => deep both.1) nofun

mutual

theorem checkWithin_checks (depth : Nat) (value : Value) :
    Checks (value.WritableWithin depth) (checkWithin depth value) := by
  refine Checks.congr ?_ (writableWithin_iff depth value).symm
  match value with
  | .int n =>
    unfold checkWithin
    exact (checkDigits_checks (isTooLong n)).congr ⟨fun short => ⟨short, nofun⟩, And.left⟩
  | .list items => exact checkLevel_checks (checkItems_checks (depth + 1) items)
  | .object fields => exact checkLevel_checks (checkFields_checks (depth + 1) fields)
  | .row fields => exact checkLevel_checks (checkFields_checks (depth + 1) fields)
  | .null | .bool _ | .float _ | .text _ | .bytes _ | .decimal _ | .moment _ | .uuid _ | .foreign =>
    exact .passed ⟨trivial, nofun⟩

theorem checkItems_checks (depth : Nat) (items : List Value) :
    Checks (∀ item ∈ items, item.WritableWithin depth) (checkItems depth items) := by
  match items with
  | [] => exact .passed nofun
  | item :: rest =>
    exact ((checkWithin_checks depth item).bind (checkItems_checks depth rest)).congr List.forall_mem_cons.symm

theorem checkFields_checks (depth : Nat) (fields : List (String × Value)) :
    Checks (∀ inner ∈ fields.map (·.2), inner.WritableWithin depth) (checkFields depth fields) := by
  match fields with
  | [] => exact .passed nofun
  | (name, value) :: rest =>
    exact ((checkWithin_checks depth value).bind (checkFields_checks depth rest)).congr List.forall_mem_cons.symm

end

theorem checkText_checks (value : Value) : Checks value.HasText value.checkText :=
  (checkWithin_checks 0 value).congr (hasText_iff value).symm

/-! ### Numbers without bounds -/

/-- Whether a value is a number that no integer is made of: an infinite one, or one of too many places. -/
def Unbounded : Value → Prop
  | .float (.infinite _) | .decimal (.infinite _) => True
  | .decimal (.finite _ _ exponent) => memoryLimit < exponent.toNat
  | _ => False

/-- What comes of reading a value as an integer. -/
inductive IntegerOutcome (value : Value) : Except Error Int → Prop where
  | read {n} (bounded : ¬value.Unbounded) (written : value.HasText ∨ ∃ n, value = .int n) : IntegerOutcome value (.ok n)
  | refused {failure} (bounded : ¬value.Unbounded) (other : ∀ n, value ≠ .int n)
    (kind : failure.kind = .type ∨ failure.kind = .value) : IntegerOutcome value (.error failure)
  | unbounded {failure} (unbounded : value.Unbounded) (kind : failure.kind = .overflow ∨ failure.kind = .memory) :
    IntegerOutcome value (.error failure)

theorem IntegerOutcome.of_fault {value : Value} {fault : IntegerFault} {base : Nat} {shown : String}
    (bounded : ¬value.Unbounded) (other : ∀ n, value ≠ .int n) :
    IntegerOutcome value (.error (integerFault base shown fault)) := by
  refine .refused bounded other (.inr ?_)
  cases fault <;> rfl

theorem IntegerOutcome.of_text (value : Value) {shown : String} (bounded : ¬value.Unbounded)
    (written : value.HasText) (other : ∀ n, value ≠ .int n) (chars : List Char) :
    IntegerOutcome value ((readInteger 10 chars).mapError (integerFault 10 shown)) := by
  cases readInteger 10 chars with
  | ok n => exact .read bounded (.inl written)
  | error fault => exact .of_fault bounded other

theorem toInteger_outcome (value : Value) : IntegerOutcome value value.toInteger := by
  match value with
  | .int n => exact .read id (.inr ⟨n, rfl⟩)
  | .bool _ | .uuid _ => exact .read id (.inl (hasText_scalar trivial rfl))
  | .float .nan | .decimal (.nan ..) => exact .refused id nofun (.inr rfl)
  | .float (.infinite _) | .decimal (.infinite _) => exact .unbounded trivial (.inl rfl)
  | .float (.finite ..) => exact .read id (.inl (hasText_scalar trivial rfl))
  | .decimal (.finite negative c e) =>
    rw [toInteger, checkMemory]
    split
    · next large => exact .unbounded large (.inr rfl)
    · next small => exact .read small (.inl (hasText_scalar trivial rfl))
  | .text s => exact .of_text (.text s) id (hasText_scalar trivial rfl) nofun s.toList
  | .bytes content =>
    rw [toInteger]
    split
    · exact .of_fault id nofun
    · exact .of_text (.bytes content) id (hasText_scalar trivial rfl) nofun _
  | .null | .moment _ | .foreign | .list _ | .object _ | .row _ => exact .refused id nofun (.inl rfl)

end Value

namespace Request

/-- Whether a value is read as an integer or refused as none. -/
def IntegerReads (value : Value) : Prop := ¬value.Unbounded ∧ (value.HasText ∨ ∃ n, value = .int n)

theorem integerReads_missing {value : Value} (missing : value.missing = true) : IntegerReads value := by
  unfold Value.missing at missing
  split at missing
  · exact ⟨id, .inl (Value.hasText_scalar trivial rfl)⟩
  · exact ⟨id, .inl (Value.hasText_scalar trivial rfl)⟩
  · cases missing

theorem served_integer (name : String) (default : Int) (value : Value) :
    Served (fun _ => True) (integer name default value) ↔ IntegerReads value := by
  unfold integer
  split
  · next missing => exact iff_of_true trivial (integerReads_missing missing)
  · have outcome := value.toInteger_outcome
    split
    · next n read =>
      rw [read] at outcome
      cases outcome with
      | read bounded written => exact iff_of_true trivial ⟨bounded, written⟩
    · next failure failed =>
      rw [failed] at outcome
      cases outcome with
      | refused bounded other kind =>
        have caught : ¬(failure.kind ≠ .type && failure.kind ≠ .value) = true := by
          rcases kind with kind | kind <;> simp [kind]
        rw [if_neg caught]
        refine (value.checkText_checks.served_bind _).trans ⟨fun both => ⟨bounded, .inl both.1⟩, fun reads => ⟨?_, rfl⟩⟩
        exact reads.2.resolve_right fun ⟨n, same⟩ => other n same
      | unbounded unbounded kind =>
        have uncaught : (failure.kind ≠ .type && failure.kind ≠ .value) = true := by
          rcases kind with kind | kind <;> simp [kind]
        rw [if_pos uncaught]
        refine iff_of_false (fun served => ?_) fun reads => reads.1 unbounded
        have refusal : failure.kind = .request := served
        rcases kind with kind | kind <;> rw [kind] at refusal <;> cases refusal

end Request

/-! ### Texts of JSON -/

namespace Json

/-- Whether reading a text is given up for its size: it nests too deep, or a number in it has too many digits. -/
def GivesUp (chars : List Char) : Prop := ∃ stop, readDocument chars = .error stop ∧ stop.fault.isLimit = true

theorem Bounded.not_givesUp {chars : List Char} (bounded : Bounded chars) : ¬GivesUp chars := by
  rintro ⟨stop, stopped, limit⟩
  rw [readDocument_grammar bounded stopped] at limit
  cases limit

theorem failure_kind (name : String) (chars : List Char) (stop : Stop) :
    (failure name chars stop).kind = .request ↔ stop.fault.isLimit = false := by
  obtain ⟨fault, left⟩ := stop
  cases fault <;> simp [failure, Error.kind, Fault.isLimit]

theorem served_parseChars (name : String) (chars : List Char) :
    Served (fun _ => True) (parseChars name chars) ↔ ¬GivesUp chars := by
  unfold parseChars GivesUp
  cases read : readDocument chars with
  | error stop => simp [Except.mapError, failure_kind]
  | ok value => simp [Except.mapError]

theorem parseChars_ok {name : String} {chars : List Char} {value : Value}
    (parsed : parseChars name chars = .ok value) : readDocument chars = .ok value := by
  unfold parseChars at parsed
  cases read : readDocument chars with
  | error stop =>
    rw [read] at parsed
    cases parsed
  | ok found =>
    rw [read] at parsed
    cases parsed
    rfl

theorem parse_ok {name : String} {chars : List Char} {value : Value} (parsed : parse name chars = .ok value) :
    readDocument chars = .ok value := by
  unfold parse at parsed
  split at parsed
  · cases parsed
  · exact parseChars_ok parsed

theorem readDocument_mark (rest : List Char) :
    readDocument ('\uFEFF' :: rest) = .error ⟨.value, rest.length + 1⟩ := by
  have word : readWord ('\uFEFF' :: rest) = none := rfl
  have number : readNumber ('\uFEFF' :: rest) = none := rfl
  have space : skipSpace ('\uFEFF' :: rest) = '\uFEFF' :: rest := rfl
  have value : readValue 0 (rest.length + 1 + 1) ('\uFEFF' :: rest) = .error ⟨.value, rest.length + 1⟩ := by
    unfold readValue
    rw [word, number]
    rfl
  unfold readDocument
  rw [space, List.length_cons, value]

theorem served_parse (name : String) (chars : List Char) :
    Served (fun _ => True) (parse name chars) ↔ ¬GivesUp chars := by
  unfold parse
  split
  · next rest =>
    refine iff_of_true (by rw [served_error, failure_kind]; rfl) ?_
    rintro ⟨stop, stopped, limit⟩
    rw [readDocument_mark] at stopped
    cases stopped
    cases limit
  · exact served_parseChars name chars

end Json

namespace Request

/-- Whether a parameter is no JSON text, or one that can be decoded, if only to be refused. -/
def Legible : Value → Prop
  | .text content => ¬Json.GivesUp content.toList
  | .bytes content =>
    ∃ chars, Text.decode (Text.detect content).1 true (Text.detect content).2 = some chars ∧ ¬Json.GivesUp chars
  | _ => True

variable (fields : List (String × Value)) (name : String)

theorem served_decoded :
    Served (fun _ => True) (decoded ⟨.object fields⟩ name) ↔ Legible (Value.fieldOrNull fields name) := by
  have found : parameter ⟨.object fields⟩ name = .ok (Value.fieldOrNull fields name) := rfl
  rw [decoded, found, Except.ok_bind]
  cases sent : Value.fieldOrNull fields name with
  | text content =>
    dsimp only
    split
    · next empty =>
      rw [beq_iff_eq] at empty
      exact iff_of_true trivial (empty ▸ (Json.bounded_of_length (Nat.zero_le _)).not_givesUp)
    · exact Json.served_parse name content.toList
  | bytes content =>
    dsimp only
    split
    · next empty =>
      rw [List.isEmpty_iff] at empty
      subst empty
      exact iff_of_true trivial ⟨[], rfl, (Json.bounded_of_length (Nat.zero_le _)).not_givesUp⟩
    · split
      · next chars characters =>
        rw [Json.served_parseChars]
        constructor
        · exact fun kept => ⟨chars, characters, kept⟩
        · rintro ⟨_, same, kept⟩
          cases characters.symm.trans same
          exact kept
      · next undecodable =>
        rw [served_error]
        refine iff_of_false (fun refusal => by cases refusal) ?_
        rintro ⟨_, same, _⟩
        cases undecodable.symm.trans same
  | _ => exact iff_of_true trivial trivial

/-- Whether a parameter is left out, or a JSON text within the limits, as it is or in bytes. -/
def Texted : Value → Prop
  | .null => True
  | .text content => Json.Bounded content.toList
  | .bytes content =>
    ∃ chars, Text.decode (Text.detect content).1 true (Text.detect content).2 = some chars ∧ Json.Bounded chars
  | _ => False

theorem Texted.legible {sent : Value} (texted : Texted sent) : Legible sent := by
  cases sent with
  | text content => exact Json.Bounded.not_givesUp texted
  | bytes content =>
    obtain ⟨chars, characters, bounded⟩ := texted
    exact ⟨chars, characters, bounded.not_givesUp⟩
  | _ => exact trivial

variable {fields name} in
/-- What a JSON text within the limits says has a text. -/
theorem decoded_hasText (texted : Texted (Value.fieldOrNull fields name)) {value : Value}
    (read : decoded ⟨.object fields⟩ name = .ok value) : value.HasText := by
  have found : parameter ⟨.object fields⟩ name = .ok (Value.fieldOrNull fields name) := rfl
  rw [decoded, found, Except.ok_bind] at read
  cases sent : Value.fieldOrNull fields name with
  | null =>
    rw [sent] at read
    cases read
    exact Value.hasText_scalar trivial rfl
  | text content =>
    rw [sent] at read texted
    dsimp only at read
    split at read
    · cases read
      exact Value.hasText_scalar trivial rfl
    · exact Json.readDocument_hasText texted (Json.parse_ok read)
  | bytes content =>
    rw [sent] at read texted
    obtain ⟨chars, characters, bounded⟩ := texted
    dsimp only at read
    split at read
    · cases read
      exact Value.hasText_scalar trivial rfl
    · rw [characters] at read
      exact Json.readDocument_hasText bounded (Json.parseChars_ok read)
  | _ =>
    rw [sent] at texted
    exact texted.elim

end Request

end DataGrid
