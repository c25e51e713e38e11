import Ram.Proofs.Assembly.LabelTable

/-!
# Label tables as two maps

A table that goes on after a refused declaration is the same as one that never saw it.  So what
declarations do to a table can be told from those among them that it accepts
(`LabelTable.ofDeclarations_accepted`), and these are declarations that all succeed.  What the table
then knows is `LabelTable.InStep`.

A table is one list, and both questions that it answers are put to that list.  It can also be kept
as two maps, one from names and one from positions, which a declaration changes in place
(`LabelMaps`).  Nothing but the declarations keeps such maps in step, and three of the four ways that
a declaration can go change neither of them (`LabelMaps.call_eq`).  The fourth changes one after the
other.  The invariant is that the maps answer as a table does (`LabelMaps.Represents`).  A
declaration keeps it and has the same outcome for the maps as for the table
(`LabelMaps.Represents.call`).
-/

namespace Ram.Assembly

namespace LabelTable

/-! ## Refused declarations -/

/-- The table after a declaration, which it may refuse. -/
def after (table : LabelTable) (declaration : Declaration) : LabelTable :=
  match table.declare declaration with
  | .ok next => next
  | .error _ => table

/-- The table after some declarations, each of which it may refuse. -/
def afterAll (table : LabelTable) (declarations : List Declaration) : LabelTable :=
  declarations.foldl after table

/-- The declarations that a table accepts among some that are made one after another. -/
def accepted (table : LabelTable) : List Declaration → List Declaration
  | [] => []
  | declaration :: rest =>
    match table.declare declaration with
    | .ok next => declaration :: next.accepted rest
    | .error _ => table.accepted rest

variable {table next : LabelTable} {declaration : Declaration}

theorem after_of_ok (declared : table.declare declaration = .ok next) :
    table.after declaration = next := by
  simp [after, declared]

theorem after_of_error {error : Error} (refused : table.declare declaration = .error error) :
    table.after declaration = table := by
  simp [after, refused]

theorem afterAll_cons (table : LabelTable) (declaration : Declaration) (rest : List Declaration) :
    table.afterAll (declaration :: rest) = (table.after declaration).afterAll rest := rfl

/-- The declarations that a table accepts lead to the same table without the others. -/
theorem declareAll_accepted (table : LabelTable) (declarations : List Declaration) :
    (table.accepted declarations).foldlM LabelTable.declare table =
      .ok (table.afterAll declarations) := by
  induction declarations generalizing table with
  | nil => rfl
  | cons declaration rest hypothesis =>
      rw [afterAll_cons]
      cases outcome : table.declare declaration with
      | error error =>
          simp only [accepted, outcome]
          rw [after_of_error outcome]
          exact hypothesis table
      | ok next =>
          simp only [accepted, outcome]
          rw [after_of_ok outcome, List.foldlM_cons, bind_eq_ok_iff]
          exact ⟨next, outcome, hypothesis next⟩

/-- The declarations that were accepted make the same table by themselves. -/
theorem ofDeclarations_accepted (declarations : List Declaration) :
    ofDeclarations (accepted {} declarations) = .ok (afterAll {} declarations) :=
  declareAll_accepted {} declarations

/-- What a table has recorded of a name never changes. -/
theorem find?_afterAll {name : String} {entry : Declaration} (found : table.find? name = some entry)
    (later : List Declaration) : (table.afterAll later).find? name = some entry := by
  rw [find?_of_declareAll name (declareAll_accepted table later), found, Option.some_or]

/-! ## What a table knows -/

/-- What a table knows when it has accepted some declarations. -/
structure InStep (table : LabelTable) (accepted : List Declaration) : Prop where
  /-- A name stands for a position exactly when it is among the names of the position. -/
  stands : ∀ name position, table.resolve name = some position ↔ name ∈ table.attachedTo position
  /-- A name is there once. -/
  once : ∀ name position, table.resolve name = some position →
    (table.attachedTo position).count name = 1
  /-- It is not among the names of another position. -/
  apart : ∀ name position, table.resolve name = some position →
    ∀ other, other ≠ position → name ∉ table.attachedTo other
  /-- What is recorded of a name is its first declaration. -/
  first : ∀ name, table.find? name = accepted.find? fun entry => entry.name = name
  /-- The names of a position are in the order of their first declarations. -/
  ordered : ∀ position, (table.attachedTo position).Pairwise fun earlier later =>
    (accepted.map Declaration.name).idxOf earlier < (accepted.map Declaration.name).idxOf later
  /-- Every name is a label name. -/
  named : ∀ name entry, table.find? name = some entry → isLabelName name.toList = true

theorem inStep_of_ofDeclarations {declarations : List Declaration}
    (success : ofDeclarations declarations = .ok table) : table.InStep declarations := by
  have wellFormed := wellFormed_of_ofDeclarations success
  constructor
  case stands => exact fun name position => wellFormed.resolve_eq_some_iff
  case once =>
    intro name position resolved
    have distinct := wellFormed.nodup_attachedTo [position] (List.nodup_singleton position)
    rw [List.flatMap_singleton] at distinct
    exact List.count_eq_one_of_mem distinct (wellFormed.resolve_eq_some_iff.mp resolved)
  case apart =>
    intro name position resolved other different there
    rw [← wellFormed.resolve_eq_some_iff, resolved, Option.some.injEq] at there
    exact different there.symm
  case first => exact find?_of_ofDeclarations success
  case ordered => exact pairwise_attachedTo success
  case named =>
    intro name entry found
    obtain ⟨member, rfl⟩ := mem_of_find? found
    exact wellFormed.named entry member

/-! ## One more name -/

theorem attachedTo_append (table : LabelTable) (declaration : Declaration) (position : Nat) :
    attachedTo ⟨table.entries ++ [declaration]⟩ position =
      if declaration.position = position then table.attachedTo position ++ [declaration.name]
      else table.attachedTo position := by
  by_cases same : declaration.position = position
  · simp [attachedTo, same]
  · simp [attachedTo, same]

end LabelTable

/-! ## Two maps -/

/-- A label table as two maps. -/
structure LabelMaps where
  /-- The position and the line that are recorded for a name. -/
  targets : Std.HashMap String (Nat × Nat) := {}
  /-- The names of a position that has some, in the order of their declarations. -/
  attached : Std.HashMap Nat (List String) := {}

namespace LabelMaps

/-- The position that a name stands for. -/
def resolve (maps : LabelMaps) (name : String) : Option Nat :=
  maps.targets[name]?.map Prod.fst

/-- The names that stand for a position. -/
def attachedTo (maps : LabelMaps) (position : Nat) : List String :=
  maps.attached[position]?.getD []

/-- Records a label in the first map. -/
def record (declaration : Declaration) (maps : LabelMaps) : LabelMaps :=
  { maps with
    targets := maps.targets.insert declaration.name (declaration.position, declaration.line) }

/-- Puts a label behind the others of its position in the second map. -/
def attach (declaration : Declaration) (maps : LabelMaps) : LabelMaps :=
  { maps with
    attached := maps.attached.alter declaration.position fun names =>
      some (names.getD [] ++ [declaration.name]) }

/-- Declares a label.  The maps survive a failure as they are at that moment. -/
def declare (declaration : Declaration) : ExceptT Error (StateM LabelMaps) Unit := do
  if !isLabelName declaration.name.toList then
    throw ⟨declaration.line, .invalidLabel declaration.name⟩
  match (← get).targets[declaration.name]? with
  | some (position, line) =>
    if position ≠ declaration.position then
      throw ⟨declaration.line, .duplicateLabel declaration.name line⟩
  | none =>
    modify (record declaration)
    modify (attach declaration)

/-- The outcome of a declaration and the maps after it. -/
def call (maps : LabelMaps) (declaration : Declaration) : Except Error Unit × LabelMaps :=
  Id.run ((declare declaration).run.run maps)

/-- The maps after some declarations, each of which may fail. -/
def afterAll (maps : LabelMaps) (declarations : List Declaration) : LabelMaps :=
  declarations.foldl (fun maps declaration => (maps.call declaration).2) maps

variable {maps : LabelMaps} {table : LabelTable} {declaration : Declaration}

/-- What comes after looking at the maps sees them as they are. -/
theorem run_get_bind (maps : LabelMaps) (next : LabelMaps → ExceptT Error (StateM LabelMaps) Unit) :
    (get >>= next).run.run maps = (next maps).run.run maps := rfl

/-- The four ways that a declaration can go. -/
theorem call_eq (maps : LabelMaps) (declaration : Declaration) :
    maps.call declaration =
      if isLabelName declaration.name.toList = false then
        (.error ⟨declaration.line, .invalidLabel declaration.name⟩, maps)
      else
        match maps.targets[declaration.name]? with
        | some (position, line) =>
          if position = declaration.position then (.ok (), maps)
          else (.error ⟨declaration.line, .duplicateLabel declaration.name line⟩, maps)
        | none => (.ok (), attach declaration (record declaration maps)) := by
  unfold call declare
  cases named : isLabelName declaration.name.toList with
  | false => rfl
  | true =>
      simp only [Bool.not_true, Bool.false_eq_true, if_false, run_get_bind]
      cases found : maps.targets[declaration.name]? with
      | none => rfl
      | some target =>
          by_cases same : target.1 = declaration.position
          · simp [same]
          · simp [same]

/-- A declaration that fails leaves both maps as they are. -/
theorem call_of_error {error : Error} (failed : (maps.call declaration).1 = .error error) :
    (maps.call declaration).2 = maps := by
  rw [call_eq] at failed ⊢
  split
  next => rfl
  next named =>
    rw [if_neg named] at failed
    cases found : maps.targets[declaration.name]? with
    | none => simp [found] at failed
    | some target =>
        dsimp only
        split <;> rfl

theorem targets_attach_record (maps : LabelMaps) (declaration : Declaration) (name : String) :
    (attach declaration (record declaration maps)).targets[name]? =
      if declaration.name = name then some (declaration.position, declaration.line)
      else maps.targets[name]? := by
  simp [attach, record, Std.HashMap.getElem?_insert]

theorem attachedTo_attach_record (maps : LabelMaps) (declaration : Declaration) (position : Nat) :
    (attach declaration (record declaration maps)).attachedTo position =
      if declaration.position = position then maps.attachedTo position ++ [declaration.name]
      else maps.attachedTo position := by
  simp only [attachedTo, attach, record, Std.HashMap.getElem?_alter, beq_iff_eq]
  split
  next same => simp [same]
  next => rfl

/-! ## Maps and tables -/

/-- Whether two maps answer as a table does. -/
structure Represents (maps : LabelMaps) (table : LabelTable) : Prop where
  targets : ∀ name, maps.targets[name]? =
    (table.find? name).map fun entry => (entry.position, entry.line)
  attached : ∀ position, maps.attachedTo position = table.attachedTo position

theorem represents_empty : Represents {} {} where
  targets name := by simp [LabelTable.find?]
  attached position := by simp [attachedTo, LabelTable.attachedTo]

/-- Maps that represent a table resolve names as it does. -/
theorem Represents.resolve (represents : maps.Represents table) (name : String) :
    maps.resolve name = table.resolve name := by
  rw [LabelMaps.resolve, represents.targets, Option.map_map]
  rfl

/-- A new name enters both maps as it enters the table. -/
theorem Represents.enter (represents : maps.Represents table)
    (absent : table.find? declaration.name = none)
    (declared : table.declare declaration = .ok ⟨table.entries ++ [declaration]⟩) :
    (attach declaration (record declaration maps)).Represents ⟨table.entries ++ [declaration]⟩ := by
  constructor
  · intro name
    rw [targets_attach_record, LabelTable.find?_of_declare declared, represents.targets]
    -- the table asks its old entries first, which only agrees with an insertion for a new name
    split
    next same =>
      rw [← same, absent]
      rfl
    next => rw [Option.or_none]
  · intro position
    rw [attachedTo_attach_record, LabelTable.attachedTo_append, represents.attached]

/-- A declaration has the same outcome for the maps as for the table that they represent, and they
represent the table after it. -/
theorem Represents.call (represents : maps.Represents table) (declaration : Declaration) :
    (maps.call declaration).1 = (table.declare declaration).map (fun _ => ()) ∧
      (maps.call declaration).2.Represents (table.after declaration) := by
  have recorded := represents.targets declaration.name
  cases outcome : table.declare declaration with
  | error error =>
      rw [LabelTable.after_of_error outcome, call_eq, recorded]
      rcases LabelTable.declare_eq_error_iff.mp outcome with
        ⟨unnamed, rfl⟩ | ⟨named, first, found, different, rfl⟩
      · rw [if_pos unnamed]
        exact ⟨rfl, represents⟩
      · rw [if_neg (by simp [named]), found]
        dsimp only [Option.map_some]
        rw [if_neg different]
        exact ⟨rfl, represents⟩
  | ok next =>
      rw [LabelTable.after_of_ok outcome, call_eq, recorded]
      obtain ⟨named, ⟨absent, rfl⟩ | ⟨⟨first, found, same⟩, rfl⟩⟩ :=
        LabelTable.declare_eq_ok_iff.mp outcome
      · rw [if_neg (by simp [named]), absent]
        exact ⟨rfl, represents.enter absent outcome⟩
      · rw [if_neg (by simp [named]), found]
        dsimp only [Option.map_some]
        rw [if_pos same]
        exact ⟨rfl, represents⟩

theorem Represents.afterAll (represents : maps.Represents table) (declarations : List Declaration) :
    (maps.afterAll declarations).Represents (table.afterAll declarations) := by
  induction declarations generalizing maps table with
  | nil => exact represents
  | cons declaration rest hypothesis => exact hypothesis (represents.call declaration).2

/-- The two maps stay in step.  After any declarations, refused ones among them, a name stands for
a position exactly when it is among the names of the position, where it is once, and it is among
those of no other position.  What is recorded of it is its first accepted declaration, and stays so
whatever is declared later.  The names of a position are in the order of these declarations, and all
are label names.  The maps answer as the table does, whichever declaration comes next has the same
outcome for both, and if it is refused then both stay as they are. -/
theorem inStep_afterAll (declarations : List Declaration) :
    let table := LabelTable.afterAll {} declarations
    let maps := LabelMaps.afterAll {} declarations
    table.InStep (LabelTable.accepted {} declarations) ∧
      (∀ name entry, table.find? name = some entry →
        ∀ later, (table.afterAll later).find? name = some entry) ∧
      maps.Represents table ∧ maps.resolve = table.resolve ∧ maps.attachedTo = table.attachedTo ∧
      ∀ declaration,
        (maps.call declaration).1 = (table.declare declaration).map (fun _ => ()) ∧
          ∀ error, table.declare declaration = .error error →
            table.after declaration = table ∧ (maps.call declaration).2 = maps := by
  intro table maps
  have represents : maps.Represents table := represents_empty.afterAll declarations
  refine ⟨LabelTable.inStep_of_ofDeclarations (LabelTable.ofDeclarations_accepted declarations),
    fun name entry => LabelTable.find?_afterAll, represents, funext represents.resolve,
    funext represents.attached, fun declaration => ?_⟩
  have same := (represents.call declaration).1
  refine ⟨same, fun error refused => ⟨LabelTable.after_of_error refused, ?_⟩⟩
  rw [refused] at same
  exact call_of_error same

/-- A name that is declared again for its position, one that is declared for another, and one that
is no label name. -/
example :
    let declarations : List Declaration :=
      [⟨"b", 1, 1⟩, ⟨"a", 1, 2⟩, ⟨"b", 1, 3⟩, ⟨"a", 2, 4⟩, ⟨"r1", 2, 5⟩, ⟨"c", 2, 6⟩]
    LabelTable.accepted {} declarations = [⟨"b", 1, 1⟩, ⟨"a", 1, 2⟩, ⟨"b", 1, 3⟩, ⟨"c", 2, 6⟩] ∧
      (LabelTable.afterAll {} declarations).attachedTo 1 = ["b", "a"] ∧
      (LabelTable.afterAll {} declarations).find? "b" = some ⟨"b", 1, 1⟩ := by
  decide +kernel

end LabelMaps

end Ram.Assembly
