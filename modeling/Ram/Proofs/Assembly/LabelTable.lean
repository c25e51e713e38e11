import Ram.Assembly.LabelTable
import Ram.Proofs.InOrder
import Mathlib.Data.List.Nodup

/-!
# The two views of a label table

A table that was made by declarations holds no name twice, and all its names are label names.
That is the invariant `LabelTable.WellFormed`.  It ties the two views of a table together: a
name stands for a position exactly when it is among the names of that position
(`WellFormed.resolve_eq_some_iff`).

Declarations are accepted exactly when their names are label names and no name is declared for two
positions (`exists_ofDeclarations_iff`).  The table then knows each name by its first declaration
(`find?_of_ofDeclarations`), so all names are in it, in the order of the first declarations
(`InOrderOf`), and each stands for the position that it is declared for.
Declarations with distinct names all enter it, in their order (`ofDeclarations_of_distinct`).
-/

namespace Ram.Assembly

open Text

/-- What a label name is, rule by rule. -/
theorem isLabelName_iff {text : List Char} :
    isLabelName text = true ↔
      startsWithLetter text = true ∧ (∀ c ∈ text, isBlank c = false) ∧ ':' ∉ text ∧
        looksLikeRegister text = false := by
  simp [isLabelName, and_assoc]

namespace LabelTable

variable {table next : LabelTable} {declaration : Declaration} {name : String} {position : Nat}

/-! ## One declaration -/

/-- What a declaration does: it enters the table if its name is new, and changes nothing if the
name already stands for the position. -/
theorem declare_eq_ok_iff :
    table.declare declaration = .ok next ↔
      isLabelName declaration.name.toList = true ∧
        ((table.find? declaration.name = none ∧ next = ⟨table.entries ++ [declaration]⟩) ∨
          ((∃ first, table.find? declaration.name = some first ∧
            first.position = declaration.position) ∧ next = table)) := by
  unfold declare
  cases named : isLabelName declaration.name.toList with
  | false => simp
  | true =>
      cases found : table.find? declaration.name with
      | none => simp [eq_comm]
      | some first =>
          by_cases same : first.position = declaration.position
          · simp [same, eq_comm]
          · simp [same]

/-- What a declaration is refused for: its name is no label name, or stands for another
position. -/
theorem declare_eq_error_iff {error : Error} :
    table.declare declaration = .error error ↔
      (isLabelName declaration.name.toList = false ∧
        error = ⟨declaration.line, .invalidLabel declaration.name⟩) ∨
      isLabelName declaration.name.toList = true ∧
        ∃ first, table.find? declaration.name = some first ∧
          first.position ≠ declaration.position ∧
          error = ⟨declaration.line, .duplicateLabel declaration.name first.line⟩ := by
  unfold declare
  cases named : isLabelName declaration.name.toList with
  | false => simp [eq_comm]
  | true =>
      cases found : table.find? declaration.name with
      | none => simp
      | some first =>
          by_cases same : first.position = declaration.position
          · simp [same]
          · simpa [same] using eq_comm

/-! ## Looking names up -/

theorem mem_of_find? {entry : Declaration} (found : table.find? name = some entry) :
    entry ∈ table.entries ∧ entry.name = name :=
  ⟨List.mem_of_find?_eq_some found, by simpa using List.find?_some found⟩

theorem find?_eq_none_iff :
    table.find? name = none ↔ name ∉ table.entries.map Declaration.name := by
  simp [find?]

theorem mem_attachedTo_iff :
    name ∈ table.attachedTo position ↔
      ∃ entry ∈ table.entries, entry.position = position ∧ entry.name = name := by
  simp [attachedTo, and_assoc]

/-! ## The invariant -/

/-- Every name of the table is a label name, and no name stands in it twice. -/
structure WellFormed (table : LabelTable) : Prop where
  named : ∀ entry ∈ table.entries, isLabelName entry.name.toList = true
  distinct : (table.entries.map Declaration.name).Nodup

theorem wellFormed_empty : WellFormed {} := ⟨by simp, by simp⟩

/-- A table stays well-formed with one more declaration. -/
theorem WellFormed.declare (wellFormed : table.WellFormed)
    (declared : table.declare declaration = .ok next) : next.WellFormed := by
  obtain ⟨named, ⟨absent, rfl⟩ | ⟨_, rfl⟩⟩ := declare_eq_ok_iff.mp declared
  · constructor
    · intro entry member
      rcases List.mem_append.mp member with old | new
      · exact wellFormed.named entry old
      · rw [List.mem_singleton.mp new]
        exact named
    · rw [find?_eq_none_iff] at absent
      rw [List.map_append, List.nodup_append]
      refine ⟨wellFormed.distinct, by simp, ?_⟩
      rintro old oldMember new newMember rfl
      simp only [List.map_cons, List.map_nil, List.mem_singleton] at newMember
      exact absent (newMember ▸ oldMember)
  · exact wellFormed

/-- Declarations keep a table well-formed and enter nothing but themselves. -/
theorem WellFormed.declareAll :
    ∀ {declarations : List Declaration} {table result : LabelTable}, table.WellFormed →
      declarations.foldlM LabelTable.declare table = .ok result →
        result.WellFormed ∧ ∀ entry ∈ result.entries, entry ∈ table.entries ∨ entry ∈ declarations
  | [], table, result, wellFormed, success => by
      cases success
      exact ⟨wellFormed, fun entry member => .inl member⟩
  | declaration :: declarations, table, result, wellFormed, success => by
      rw [List.foldlM_cons, bind_eq_ok_iff] at success
      obtain ⟨next, declared, success⟩ := success
      obtain ⟨resultWellFormed, sources⟩ := (wellFormed.declare declared).declareAll success
      refine ⟨resultWellFormed, fun entry member => ?_⟩
      rcases sources entry member with inNext | later
      · obtain ⟨_, ⟨_, rfl⟩ | ⟨_, rfl⟩⟩ := declare_eq_ok_iff.mp declared
        · rcases List.mem_append.mp inNext with old | new
          · exact .inl old
          · exact .inr (List.mem_singleton.mp new ▸ .head _)
        · exact .inl inNext
      · exact .inr (.tail declaration later)

theorem wellFormed_of_ofDeclarations {declarations : List Declaration}
    (success : ofDeclarations declarations = .ok table) : table.WellFormed :=
  (wellFormed_empty.declareAll success).1

theorem mem_declarations_of_mem {declarations : List Declaration} {entry : Declaration}
    (success : ofDeclarations declarations = .ok table) (member : entry ∈ table.entries) :
    entry ∈ declarations := by
  rcases (wellFormed_empty.declareAll success).2 entry member with old | new
  · simp at old
  · exact new

/-! ## The two views -/

/-- In a well-formed table there is one entry for each name. -/
theorem WellFormed.eq_of_name_eq (wellFormed : table.WellFormed) {entry other : Declaration}
    (member : entry ∈ table.entries) (otherMember : other ∈ table.entries)
    (same : entry.name = other.name) : entry = other :=
  List.inj_on_of_nodup_map wellFormed.distinct member otherMember same

theorem WellFormed.find?_name (wellFormed : table.WellFormed) {entry : Declaration}
    (member : entry ∈ table.entries) : table.find? entry.name = some entry := by
  cases found : table.find? entry.name with
  | none => exact absurd (List.mem_map_of_mem member) (find?_eq_none_iff.mp found)
  | some other =>
      obtain ⟨otherMember, same⟩ := mem_of_find? found
      rw [wellFormed.eq_of_name_eq otherMember member same]

/-- A name stands for a position exactly when it is among the names of the position. -/
theorem WellFormed.resolve_eq_some_iff (wellFormed : table.WellFormed) :
    table.resolve name = some position ↔ name ∈ table.attachedTo position := by
  rw [mem_attachedTo_iff, resolve, Option.map_eq_some_iff]
  constructor
  · rintro ⟨entry, found, atPosition⟩
    obtain ⟨member, same⟩ := mem_of_find? found
    exact ⟨entry, member, atPosition, same⟩
  · rintro ⟨entry, member, atPosition, rfl⟩
    exact ⟨entry, wellFormed.find?_name member, atPosition⟩

theorem WellFormed.named_of_resolve (wellFormed : table.WellFormed)
    (resolved : table.resolve name = some position) : isLabelName name.toList = true := by
  obtain ⟨entry, found, _⟩ := Option.map_eq_some_iff.mp resolved
  obtain ⟨member, rfl⟩ := mem_of_find? found
  exact wellFormed.named entry member

/-- No name stands for two positions, nor twice for one. -/
theorem WellFormed.nodup_attachedTo (wellFormed : table.WellFormed) (positions : List Nat)
    (distinct : positions.Nodup) : (positions.flatMap table.attachedTo).Nodup := by
  rw [List.nodup_flatMap]
  constructor
  · intro position _
    exact wellFormed.distinct.sublist (List.filter_sublist.map Declaration.name)
  · apply distinct.imp
    intro position other different
    apply List.disjoint_left.mpr
    intro name here there
    rw [← wellFormed.resolve_eq_some_iff] at here there
    rw [here, Option.some.injEq] at there
    exact different there

/-! ## Which declarations are accepted -/

/-- Whether no name is declared for two positions. -/
def Consistent (declarations : List Declaration) : Prop :=
  ∀ first ∈ declarations, ∀ second ∈ declarations, first.name = second.name →
    first.position = second.position

/-- A declaration that repeats another one does not make declarations inconsistent. -/
theorem consistent_insert_iff {before after : List Declaration} {known : Declaration}
    (member : known ∈ before) (sameName : known.name = declaration.name)
    (samePosition : known.position = declaration.position) :
    Consistent (before ++ declaration :: after) ↔ Consistent (before ++ after) := by
  have stands : ∀ other ∈ before ++ declaration :: after, ∃ twin ∈ before ++ after,
      twin.name = other.name ∧ twin.position = other.position := by
    intro other there
    rcases List.mem_append.mp there with early | later
    · exact ⟨other, List.mem_append_left after early, rfl, rfl⟩
    · rcases List.mem_cons.mp later with rfl | later
      · exact ⟨known, List.mem_append_left after member, sameName, samePosition⟩
      · exact ⟨other, List.mem_append_right before later, rfl, rfl⟩
  constructor
  · intro consistent first there second alsoThere
    have keep : before ++ after ⊆ before ++ declaration :: after :=
      ((List.sublist_cons_self declaration after).append_left before).subset
    exact consistent first (keep there) second (keep alsoThere)
  · intro consistent first there second alsoThere same
    obtain ⟨twin, twinThere, twinName, twinPosition⟩ := stands first there
    obtain ⟨other, otherThere, otherName, otherPosition⟩ := stands second alsoThere
    rw [← twinPosition, ← otherPosition]
    exact consistent twin twinThere other otherThere (by rw [twinName, otherName, same])

/-- A well-formed table has no name for two positions. -/
theorem WellFormed.consistent (wellFormed : table.WellFormed) : Consistent table.entries := by
  intro first there second alsoThere same
  rw [wellFormed.eq_of_name_eq there alsoThere same]

/-- Declarations are accepted exactly when their names are label names and none of them is
declared for two positions, here or in the table. -/
theorem WellFormed.exists_declareAll_iff :
    ∀ {declarations : List Declaration} {table : LabelTable}, table.WellFormed →
      ((∃ result, declarations.foldlM LabelTable.declare table = .ok result) ↔
        (∀ declaration ∈ declarations, isLabelName declaration.name.toList = true) ∧
          Consistent (table.entries ++ declarations))
  | [], table, wellFormed => by
      constructor
      · intro _
        exact ⟨by simp, by simpa using wellFormed.consistent⟩
      · intro _
        exact ⟨table, rfl⟩
  | declaration :: declarations, table, wellFormed => by
      simp only [List.foldlM_cons, bind_eq_ok_iff, List.forall_mem_cons]
      constructor
      · rintro ⟨result, next, declared, success⟩
        obtain ⟨named, consistent⟩ :=
          (wellFormed.declare declared).exists_declareAll_iff.mp ⟨result, success⟩
        obtain ⟨firstNamed, ⟨_, rfl⟩ | ⟨⟨first, found, same⟩, rfl⟩⟩ := declare_eq_ok_iff.mp declared
        · exact ⟨⟨firstNamed, named⟩, by simpa using consistent⟩
        · obtain ⟨member, sameName⟩ := mem_of_find? found
          exact ⟨⟨firstNamed, named⟩, (consistent_insert_iff member sameName same).mpr consistent⟩
      · rintro ⟨⟨firstNamed, named⟩, consistent⟩
        have next : ∃ next, table.declare declaration = .ok next ∧
            Consistent (next.entries ++ declarations) := by
          cases found : table.find? declaration.name with
          | none =>
              exact ⟨_, declare_eq_ok_iff.mpr ⟨firstNamed, .inl ⟨found, rfl⟩⟩,
                by simpa using consistent⟩
          | some first =>
              obtain ⟨member, sameName⟩ := mem_of_find? found
              have same : first.position = declaration.position :=
                consistent first (List.mem_append_left _ member) declaration (by simp) sameName
              exact ⟨table, declare_eq_ok_iff.mpr ⟨firstNamed, .inr ⟨⟨first, found, same⟩, rfl⟩⟩,
                (consistent_insert_iff member sameName same).mp consistent⟩
        obtain ⟨next, declared, consistent⟩ := next
        obtain ⟨result, success⟩ :=
          (wellFormed.declare declared).exists_declareAll_iff.mpr ⟨named, consistent⟩
        exact ⟨result, next, declared, success⟩

/-- Declarations make a table exactly if all are of label names and none is of a name for two
positions. -/
theorem exists_ofDeclarations_iff {declarations : List Declaration} :
    (∃ table, ofDeclarations declarations = .ok table) ↔
      (∀ declaration ∈ declarations, isLabelName declaration.name.toList = true) ∧
        Consistent declarations :=
  wellFormed_empty.exists_declareAll_iff

/-! ## First declarations -/

/-- A declaration is found unless there was one of the same name. -/
theorem find?_of_declare (declared : table.declare declaration = .ok next) (name : String) :
    next.find? name =
      (table.find? name).or (if declaration.name = name then some declaration else none) := by
  obtain ⟨_, ⟨absent, rfl⟩ | ⟨⟨first, found, _⟩, rfl⟩⟩ := declare_eq_ok_iff.mp declared
  · simp only [find?, List.find?_append, List.find?_singleton, decide_eq_true_eq]
  · split
    next same => rw [← same, found, Option.some_or]
    next => rw [Option.or_none]

/-- The table keeps what it knows of a name, and otherwise learns the first declaration. -/
theorem find?_of_declareAll (name : String) :
    ∀ {declarations : List Declaration} {table result : LabelTable},
      declarations.foldlM LabelTable.declare table = .ok result →
        result.find? name =
          (table.find? name).or (declarations.find? fun entry => entry.name = name)
  | [], table, result, success => by
      cases success
      rw [List.find?_nil, Option.or_none]
  | declaration :: declarations, table, result, success => by
      rw [List.foldlM_cons, bind_eq_ok_iff] at success
      obtain ⟨next, declared, success⟩ := success
      rw [find?_of_declareAll name success, find?_of_declare declared, Option.or_assoc,
        List.find?_cons]
      by_cases same : declaration.name = name
      · simp [same]
      · simp [same]

/-- The first declaration of a name is the one that is found. -/
theorem find?_of_ofDeclarations {declarations : List Declaration}
    (success : ofDeclarations declarations = .ok table) (name : String) :
    table.find? name = declarations.find? fun entry => entry.name = name :=
  find?_of_declareAll name success

/-- The names of a table are those that were declared. -/
theorem exists_resolve_iff {declarations : List Declaration}
    (success : ofDeclarations declarations = .ok table) :
    (∃ position, table.resolve name = some position) ↔
      ∃ declaration ∈ declarations, declaration.name = name := by
  rw [← Option.isSome_iff_exists, resolve, Option.isSome_map, find?_of_ofDeclarations success,
    List.find?_isSome]
  simp

/-- A declared name stands for the position that it is declared for. -/
theorem resolve_of_mem_declarations {declarations : List Declaration}
    (success : ofDeclarations declarations = .ok table) (member : declaration ∈ declarations) :
    table.resolve declaration.name = some declaration.position := by
  obtain ⟨position, resolved⟩ := (exists_resolve_iff success).mpr ⟨declaration, member, rfl⟩
  obtain ⟨entry, found, rfl⟩ := Option.map_eq_some_iff.mp resolved
  obtain ⟨known, sameName⟩ := mem_of_find? found
  have consistent := (exists_ofDeclarations_iff.mp ⟨table, success⟩).2
  have entered := mem_declarations_of_mem success known
  rw [resolved, consistent entry entered declaration member sameName]

/-! ## The order of the names -/

/-- Whether the names of the table are some names in the order of their first occurrences. -/
structure InOrderOf (names : List String) (table : LabelTable) : Prop where
  members : ∀ name, name ∈ table.entries.map Declaration.name ↔ name ∈ names
  ordered : (table.entries.map Declaration.name).Pairwise fun first second =>
    names.idxOf first < names.idxOf second

theorem inOrderOf_empty : InOrderOf [] {} := ⟨fun _ => .rfl, .nil⟩

/-- One more declaration keeps the names in the order of their first occurrences. -/
theorem InOrderOf.declare {names : List String} (inOrder : table.InOrderOf names)
    (declared : table.declare declaration = .ok next) :
    next.InOrderOf (names ++ [declaration.name]) := by
  have kept (name : String) (known : name ∈ table.entries.map Declaration.name) :
      (names ++ [declaration.name]).idxOf name = names.idxOf name :=
    List.idxOf_append_of_mem ((inOrder.members name).mp known)
  have old : (table.entries.map Declaration.name).Pairwise fun first second =>
      (names ++ [declaration.name]).idxOf first < (names ++ [declaration.name]).idxOf second := by
    refine inOrder.ordered.imp_of_mem fun firstKnown secondKnown before => ?_
    rwa [kept _ firstKnown, kept _ secondKnown]
  obtain ⟨_, ⟨absent, rfl⟩ | ⟨⟨first, found, _⟩, rfl⟩⟩ := declare_eq_ok_iff.mp declared
  · rw [find?_eq_none_iff, inOrder.members] at absent
    have longer : (LabelTable.mk (table.entries ++ [declaration])).entries.map Declaration.name =
        table.entries.map Declaration.name ++ [declaration.name] := by simp
    refine ⟨fun name => ?_, ?_⟩ <;> rw [longer]
    · rw [List.mem_append, List.mem_append, inOrder.members]
    · refine List.pairwise_append.mpr ⟨old, List.pairwise_singleton _ _, ?_⟩
      rintro earlier known last same
      rw [List.mem_singleton.mp same, kept earlier known, List.idxOf_append_of_notMem absent]
      have inside := List.idxOf_lt_length_of_mem ((inOrder.members earlier).mp known)
      omega
  · refine ⟨fun name => ?_, old⟩
    obtain ⟨member, sameName⟩ := mem_of_find? found
    have known := (inOrder.members first.name).mp (List.mem_map_of_mem member)
    rw [sameName] at known
    rw [inOrder.members, List.mem_append, List.mem_singleton]
    constructor
    · exact .inl
    · rintro (earlier | rfl)
      · exact earlier
      · exact known

theorem InOrderOf.declareAll :
    ∀ {declarations : List Declaration} {names : List String} {table result : LabelTable},
      table.InOrderOf names → declarations.foldlM LabelTable.declare table = .ok result →
        result.InOrderOf (names ++ declarations.map Declaration.name)
  | [], names, table, result, inOrder, success => by
      cases success
      simpa using inOrder
  | declaration :: declarations, names, table, result, inOrder, success => by
      rw [List.foldlM_cons, bind_eq_ok_iff] at success
      obtain ⟨next, declared, success⟩ := success
      simpa using (inOrder.declare declared).declareAll success

/-- The names of a position are in the order of their first declarations. -/
theorem pairwise_attachedTo {declarations : List Declaration}
    (success : ofDeclarations declarations = .ok table) (position : Nat) :
    (table.attachedTo position).Pairwise fun first second =>
      (declarations.map Declaration.name).idxOf first <
        (declarations.map Declaration.name).idxOf second := by
  have inOrder := inOrderOf_empty.declareAll success
  rw [List.nil_append] at inOrder
  exact inOrder.ordered.sublist (List.filter_sublist.map Declaration.name)

/-! ## Distinct declarations -/

/-- Declarations of different names are all entered. -/
theorem declareAll_of_distinct :
    ∀ {declarations : List Declaration} {table : LabelTable},
      (∀ declaration ∈ declarations, isLabelName declaration.name.toList = true) →
        ((table.entries ++ declarations).map Declaration.name).Nodup →
          declarations.foldlM LabelTable.declare table = .ok ⟨table.entries ++ declarations⟩
  | [], table, _, _ => by simp; rfl
  | declaration :: declarations, table, named, distinct => by
      have absent : table.find? declaration.name = none := by
        rw [find?_eq_none_iff]
        rw [List.map_append, List.nodup_append] at distinct
        intro member
        exact distinct.2.2 _ member _ (.head _) rfl
      have declared : table.declare declaration = .ok ⟨table.entries ++ [declaration]⟩ :=
        declare_eq_ok_iff.mpr ⟨named declaration (.head _), .inl ⟨absent, rfl⟩⟩
      rw [List.foldlM_cons, bind_eq_ok_iff]
      refine ⟨_, declared, ?_⟩
      rw [declareAll_of_distinct (fun other member => named other (.tail _ member))
        (by simpa using distinct)]
      simp

/-- Declarations of distinct label names make a table of exactly these declarations. -/
theorem ofDeclarations_of_distinct {declarations : List Declaration}
    (named : ∀ declaration ∈ declarations, isLabelName declaration.name.toList = true)
    (distinct : (declarations.map Declaration.name).Nodup) :
    ofDeclarations declarations = .ok ⟨declarations⟩ := by
  rw [ofDeclarations, declareAll_of_distinct named (by simpa using distinct)]
  simp

end LabelTable

end Ram.Assembly
