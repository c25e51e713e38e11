import Ram.Proofs.Instruction

/-!
# Builders that are given many parts

A builder is given labels and arguments in any order, and goes on after it has refused an argument.
`Builder.give` is one such part and `Builder.giveAll` any number of them.

*One part.*  A builder takes a label always and an argument only if its next open shape admits it
(`Builder.takes?`).  A label goes behind the labels, an argument that is taken goes behind the
arguments, and nothing else changes.

*Many parts.*  The arguments that a builder takes can be told from the arguments that it is given.
The first is the earliest one of the first shape, and behind it the search goes on with the next
shape (`earliest`).  Which arguments were refused before that does not matter.

*The end.*  A builder builds what its parts make, or fails as they do (`Builder.build_eq_make`), and
arguments make an instruction exactly when there are as many as the mnemonic has shapes and each has
the shape of its place (`Instruction.exists_make_iff_admits`).
-/

namespace Ram

/-! ## Parts -/

/-- Something that a builder is given. -/
inductive Part where
  /-- A label. -/
  | label (name : String)
  /-- An argument. -/
  | argument (argument : Argument)
deriving DecidableEq, Repr

namespace Part

/-- The label of a part. -/
def label? : Part → Option String
  | label name => some name
  | argument _ => none

/-- The argument of a part. -/
def argument? : Part → Option Argument
  | label _ => none
  | argument given => some given

end Part

namespace Builder

/-- The builder after it was given a part.  An argument that is refused leaves it as it is. -/
def give (builder : Builder) : Part → Builder
  | .label name => builder.label name
  | .argument argument =>
    match builder.argument argument with
    | .ok next => next
    | .error _ => builder

/-- The argument that a builder takes when it is given a part. -/
def takes? (builder : Builder) : Part → Option Argument
  | .label _ => none
  | .argument argument =>
    match builder.argument argument with
    | .ok _ => some argument
    | .error _ => none

/-- The builder after it was given some parts. -/
def giveAll (builder : Builder) (parts : List Part) : Builder := parts.foldl give builder

/-- The arguments that a builder takes when it is given some parts, in order. -/
def accepted (builder : Builder) : List Part → List Argument
  | [] => []
  | part :: rest => (builder.takes? part).toList ++ (builder.give part).accepted rest

end Builder

/-- The earliest argument that the first shape admits, behind it the earliest that the second shape
admits, and so on. -/
def earliest : List Shape → List Argument → List Argument
  | [], _ => []
  | shape :: shapes, given =>
    match given.dropWhile (!shape.admits ·) with
    | [] => []
    | argument :: later => argument :: earliest shapes later

@[simp] theorem earliest_nil (shapes : List Shape) : earliest shapes [] = [] := by
  cases shapes <;> rfl

/-- An argument that its shape admits takes the place. -/
theorem earliest_of_admitted {shape : Shape} {argument : Argument}
    (admitted : shape.admits argument = true) (shapes : List Shape) (later : List Argument) :
    earliest (shape :: shapes) (argument :: later) = argument :: earliest shapes later := by
  simp [earliest, admitted]

/-- An argument that its shape does not admit is passed over. -/
theorem earliest_of_refused {shape : Shape} {argument : Argument}
    (refused : shape.admits argument = false) (shapes : List Shape) (later : List Argument) :
    earliest (shape :: shapes) (argument :: later) = earliest (shape :: shapes) later := by
  simp [earliest, refused]

namespace Builder

variable {builder : Builder} {argument : Argument}

/-! ## One part -/

theorem give_of_ok {next : Builder} (taken : builder.argument argument = .ok next) :
    builder.give (.argument argument) = next ∧
      builder.takes? (.argument argument) = some argument := by
  simp [give, takes?, taken]

theorem give_of_error {error : ArgumentError} (refused : builder.argument argument = .error error) :
    builder.give (.argument argument) = builder ∧ builder.takes? (.argument argument) = none := by
  simp [give, takes?, refused]

/-- What one part adds to a builder. -/
theorem parts_give (builder : Builder) (part : Part) :
    (builder.give part).mnemonic = builder.mnemonic ∧
      (builder.give part).labels = builder.labels ++ part.label?.toList ∧
      (builder.give part).arguments = builder.arguments ++ (builder.takes? part).toList := by
  cases part with
  | label name => simp [give, takes?, Builder.label, Part.label?]
  | argument argument =>
      cases outcome : builder.argument argument with
      | error error =>
          obtain ⟨same, none⟩ := give_of_error outcome
          simp [same, none, Part.label?]
      | ok next =>
          obtain ⟨same, taken⟩ := give_of_ok outcome
          obtain ⟨_, _, _, mnemonic, labels, arguments⟩ := argument_eq_ok_iff.mp outcome
          simp [same, taken, mnemonic, labels, arguments, Part.label?]

/-- A builder takes the argument of a part exactly if it is the earliest for its open shapes. -/
theorem earliest_give (builder : Builder) (part : Part) (later : List Argument) :
    earliest builder.remaining (part.argument?.toList ++ later) =
      (builder.takes? part).toList ++ earliest (builder.give part).remaining later := by
  cases part with
  | label name => rfl
  | argument argument =>
      show earliest builder.remaining (argument :: later) = _
      cases outcome : builder.argument argument with
      | error error =>
          obtain ⟨same, none⟩ := give_of_error outcome
          rw [same, none]
          rcases argument_eq_error_iff.mp outcome with ⟨full, _⟩ | ⟨shape, rest, next, refused, _⟩
          · rw [full]
            rfl
          · rw [next, earliest_of_refused refused]
            rfl
      | ok next =>
          obtain ⟨same, taken⟩ := give_of_ok outcome
          obtain ⟨shape, first, admitted, _⟩ := argument_eq_ok_iff.mp outcome
          rw [same, taken, first, earliest_of_admitted admitted]
          rfl

/-! ## Many parts -/

/-- What parts add to a builder: all labels, and the arguments that are accepted. -/
theorem parts_giveAll (builder : Builder) (parts : List Part) :
    (builder.giveAll parts).mnemonic = builder.mnemonic ∧
      (builder.giveAll parts).labels = builder.labels ++ parts.filterMap Part.label? ∧
      (builder.giveAll parts).arguments = builder.arguments ++ builder.accepted parts := by
  induction parts generalizing builder with
  | nil => simp [giveAll, accepted]
  | cons part rest hypothesis =>
      obtain ⟨mnemonic, labels, arguments⟩ := builder.parts_give part
      obtain ⟨sameMnemonic, allLabels, allArguments⟩ := hypothesis (builder.give part)
      refine ⟨sameMnemonic.trans mnemonic, ?_, ?_⟩
      · rw [giveAll, List.foldl_cons, ← giveAll, allLabels, labels, List.append_assoc]
        cases part <;> rfl
      · rw [giveAll, List.foldl_cons, ← giveAll, allArguments, arguments, List.append_assoc]
        rfl

/-- Which arguments are accepted depends on the shapes that remain and on nothing else. -/
theorem accepted_eq_earliest (builder : Builder) (parts : List Part) :
    builder.accepted parts = earliest builder.remaining (parts.filterMap Part.argument?) := by
  induction parts generalizing builder with
  | nil => simp [accepted]
  | cons part rest hypothesis =>
      have given : (part :: rest).filterMap Part.argument? =
          part.argument?.toList ++ rest.filterMap Part.argument? := by
        cases part <;> rfl
      rw [given, earliest_give, accepted, hypothesis]

end Builder

/-! ## Shapes of places -/

/-- Whether every argument has the shape of its place. -/
def Mnemonic.Admits (mnemonic : Mnemonic) (arguments : List Argument) : Prop :=
  ∀ index argument, arguments[index]? = some argument →
    ∃ shape, mnemonic.shape? index = some shape ∧ shape.admits argument = true

theorem exists_fill_iff_admits :
    ∀ {shapes : List Shape} {arguments : List Argument},
      (∃ rest, fill shapes arguments = some rest) ↔
        ∀ (index : Nat) (argument : Argument), arguments[index]? = some argument →
          ∃ shape : Shape, shapes[index]? = some shape ∧ shape.admits argument = true
  | shapes, [] => by simp
  | [], argument :: others => by
      simp only [fill, reduceCtorEq, exists_false, false_iff]
      intro admitted
      obtain ⟨_, absent, _⟩ := admitted 0 argument rfl
      cases absent
  | shape :: shapes, argument :: others => by
      simp only [fill]
      split
      next fits =>
        rw [exists_fill_iff_admits]
        constructor
        · intro admitted index other given
          cases index with
          | zero =>
              cases given
              exact ⟨shape, rfl, fits⟩
          | succ index => exact admitted index other given
        · intro admitted index other given
          exact admitted (index + 1) other given
      next misfit =>
        simp only [reduceCtorEq, exists_false, false_iff]
        intro admitted
        obtain ⟨_, first, fits⟩ := admitted 0 argument rfl
        cases first
        exact misfit fits

/-- Arguments fit a mnemonic exactly when there are as many as it has shapes and each has the shape
of its place. -/
theorem Mnemonic.fill_eq_some_nil_iff {mnemonic : Mnemonic} {arguments : List Argument} :
    fill mnemonic.shapes arguments = some [] ↔
      arguments.length = mnemonic.arity ∧ mnemonic.Admits arguments := by
  constructor
  · intro fits
    have count := length_fill fits
    exact ⟨by simpa [arity] using count.symm, exists_fill_iff_admits.mp ⟨[], fits⟩⟩
  · rintro ⟨count, admitted⟩
    obtain ⟨rest, filled⟩ := exists_fill_iff_admits.mpr admitted
    have all := length_fill filled
    rw [arity] at count
    have none : rest = [] := List.length_eq_zero_iff.mp (by omega)
    rw [filled, none]

/-- Arguments make an instruction exactly if there are as many as the mnemonic takes and each has
the shape for its place. -/
theorem Instruction.exists_make_iff_admits {mnemonic : Mnemonic} {labels : List String}
    {arguments : List Argument} :
    (∃ instruction, make mnemonic labels arguments = .ok instruction) ↔
      arguments.length = mnemonic.arity ∧ mnemonic.Admits arguments := by
  rw [exists_make_iff, Mnemonic.fill_eq_some_nil_iff]

/-! ## Building -/

namespace Builder

theorem length_arguments (builder : Builder) :
    builder.arguments.length + builder.remaining.length = builder.mnemonic.arity :=
  (length_fill builder.filled).symm

theorem admits_arguments (builder : Builder) :
    builder.mnemonic.Admits builder.arguments :=
  exists_fill_iff_admits.mp ⟨builder.remaining, builder.filled⟩

/-- A builder builds what its parts make, and fails as they do. -/
theorem build_eq_make (builder : Builder) :
    builder.build = Instruction.make builder.mnemonic builder.labels builder.arguments := by
  obtain ⟨filled, success⟩ := foldlM_argument_of_fill builder.arguments
    (builder.labels.foldl Builder.label (start builder.mnemonic))
    (by simpa [foldl_label, start] using builder.filled)
  rw [Instruction.make, success]
  simp [foldl_label, start, bind, Except.bind]

/-- Building succeeds exactly with as many arguments as the mnemonic takes. -/
theorem exists_build_iff {builder : Builder} :
    (∃ instruction, builder.build = .ok instruction) ↔
      builder.arguments.length = builder.mnemonic.arity := by
  rw [build_eq_make, Instruction.exists_make_iff_admits]
  exact and_iff_left builder.admits_arguments

/-- What a builder holds after it was given some parts. -/
structure Holds (builder : Builder) (mnemonic : Mnemonic) (parts : List Part) : Prop where
  /-- It is a builder for the mnemonic. -/
  kind : builder.mnemonic = mnemonic
  /-- It has all labels in order. -/
  labels : builder.labels = parts.filterMap Part.label?
  /-- It has no more arguments than the mnemonic takes. -/
  few : builder.arguments.length ≤ mnemonic.arity
  /-- Each of its arguments has the shape of its place. -/
  admitted : mnemonic.Admits builder.arguments
  /-- Its arguments are the earliest that do. -/
  arguments : builder.arguments = earliest mnemonic.shapes (parts.filterMap Part.argument?)

/-- Whatever parts are given, a builder holds all their labels and the earliest arguments that fit.
-/
theorem holds_giveAll (mnemonic : Mnemonic) (parts : List Part) :
    ((start mnemonic).giveAll parts).Holds mnemonic parts := by
  obtain ⟨same, labels, arguments⟩ := parts_giveAll (start mnemonic) parts
  have few := length_arguments ((start mnemonic).giveAll parts)
  have admitted := admits_arguments ((start mnemonic).giveAll parts)
  rw [same] at few admitted
  rw [accepted_eq_earliest] at arguments
  exact
    { kind := same
      labels := labels
      few := Nat.le.intro few
      admitted := admitted
      arguments := arguments }

/-- A builder never yields a malformed instruction.  Whatever parts it is given in whatever order,
an argument that it refuses leaves it as it is.  It holds all labels and the earliest arguments that
have the shapes of their places, which are those that it accepted.  It builds an instruction exactly
when these are as many as the mnemonic takes, and its answer is that to making the instruction from
its parts.  Making one succeeds exactly for as many arguments as the mnemonic takes, each of the
shape of its place, and gives an instruction with these parts. -/
theorem builds_wellFormed (mnemonic : Mnemonic) :
    (∀ parts,
      let builder := (start mnemonic).giveAll parts
      let accepted := (start mnemonic).accepted parts
      (∀ argument error, builder.argument argument = .error error →
          builder.give (.argument argument) = builder) ∧
        builder.Holds mnemonic parts ∧ builder.arguments = accepted ∧
        ((∃ instruction, builder.build = .ok instruction) ↔ accepted.length = mnemonic.arity) ∧
        builder.build = Instruction.make mnemonic (parts.filterMap Part.label?) accepted) ∧
    ∀ labels arguments,
      ((∃ instruction, Instruction.make mnemonic labels arguments = .ok instruction) ↔
        arguments.length = mnemonic.arity ∧ mnemonic.Admits arguments) ∧
      ∀ instruction, Instruction.make mnemonic labels arguments = .ok instruction →
        instruction.mnemonic = mnemonic ∧ instruction.labels = labels ∧
          instruction.arguments = arguments := by
  constructor
  · intro parts builder accepted
    have holds : builder.Holds mnemonic parts := holds_giveAll mnemonic parts
    have same : builder.arguments = accepted := by
      rw [(parts_giveAll (start mnemonic) parts).2.2]
      rfl
    refine ⟨fun argument error refused => (give_of_error refused).1, holds, same, ?_, ?_⟩
    · rw [exists_build_iff, same, holds.kind]
    · rw [build_eq_make, holds.kind, holds.labels, same]
  · intro labels arguments
    exact ⟨Instruction.exists_make_iff_admits, fun _ => Instruction.make_eq_ok_iff.mp⟩

/-- A jump that refuses a number, takes the first label that it is given to jump to, and refuses the
second. -/
example :
    let parts : List Part :=
      [.label "a", .argument (.literal 4), .argument (.label "x" 2), .label "b",
        .argument (.label "y" 3)]
    (start .jump).accepted parts = [.label "x" 2] ∧
      ((start .jump).giveAll parts).build =
        .ok ⟨.jump, ["a", "b"], [.label "x" 2], rfl⟩ :=
  ⟨rfl, rfl⟩

end Builder

end Ram
