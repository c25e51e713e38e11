import Ram.Instruction
import Ram.Proofs.InOrder

/-!
# Building instructions

What a builder holds after some labels and arguments, and which parts make an instruction.
Arguments that fit a mnemonic make an instruction with exactly these parts
(`Instruction.make_of_fits`).  No mnemonic has more than one argument, so the arguments of an
instruction are its first one or none, and there are three reasons for which an argument or the
lack of one is refused (`Mnemonic.Refuses`, `Instruction.make_eq_error_iff`).
-/

namespace Ram

/-! ## Filling shapes -/

/-- Every shape has its argument or is left over. -/
theorem length_fill {rest : List Shape} :
    ∀ {shapes : List Shape} {arguments : List Argument}, fill shapes arguments = some rest →
      shapes.length = arguments.length + rest.length
  | shapes, [], filled => by
      simp only [fill_nil, Option.some.injEq] at filled
      simp [filled]
  | [], _ :: _, filled => by simp [fill] at filled
  | shape :: shapes, argument :: arguments, filled => by
      simp only [fill] at filled
      split at filled
      next => simp [length_fill filled]; omega
      next => simp at filled

/-- Whether arguments fit depends on nothing but their kinds. -/
theorem fill_map {change : Argument → Argument}
    (kept : ∀ shape argument, Shape.admits shape (change argument) = shape.admits argument) :
    ∀ (shapes : List Shape) (arguments : List Argument),
      fill shapes (arguments.map change) = fill shapes arguments
  | shapes, [] => by simp
  | [], _ :: _ => rfl
  | shape :: shapes, argument :: arguments => by
      simp only [List.map_cons, fill, kept, fill_map kept shapes arguments]

/-! ## Builders -/

namespace Builder

/-- Labels are appended in the order in which they are given. -/
theorem foldl_label :
    ∀ (labels : List String) (builder : Builder),
      labels.foldl Builder.label builder = { builder with labels := builder.labels ++ labels }
  | [], builder => by simp
  | name :: names, builder => by
      rw [List.foldl_cons, foldl_label names]
      simp [label]

/-- A builder takes an argument exactly when its next open shape admits it, and then holds it
after the others. -/
theorem argument_eq_ok_iff {builder next : Builder} {argument : Argument} :
    builder.argument argument = .ok next ↔
      ∃ shape, builder.remaining = shape :: next.remaining ∧ shape.admits argument = true ∧
        next.mnemonic = builder.mnemonic ∧ next.labels = builder.labels ∧
        next.arguments = builder.arguments ++ [argument] := by
  obtain ⟨mnemonic, labels, arguments, remaining, filled⟩ := builder
  obtain ⟨nextMnemonic, nextLabels, nextArguments, nextRemaining, nextFilled⟩ := next
  cases remaining with
  | nil => simp [Builder.argument]
  | cons shape rest =>
      simp only [Builder.argument]
      split
      next admitted => simp only [Except.ok.injEq, mk.injEq, List.cons.injEq]; grind
      next refused => simp only [reduceCtorEq, List.cons.injEq, false_iff]; grind

/-- A builder takes arguments that fill some of its open shapes, and the others stay open. -/
theorem foldlM_argument_of_fill {rest : List Shape} :
    ∀ (arguments : List Argument) (builder : Builder),
      fill builder.remaining arguments = some rest →
        ∃ filled, arguments.foldlM Builder.argument builder =
          .ok ⟨builder.mnemonic, builder.labels, builder.arguments ++ arguments, rest, filled⟩
  | [], ⟨mnemonic, labels, arguments, remaining, filled⟩, fills => by
      simp only [fill_nil, Option.some.injEq] at fills
      subst fills
      exact ⟨by simpa using filled, by simp; rfl⟩
  | argument :: others, ⟨mnemonic, labels, arguments, [], filled⟩, fills => by
      simp [fill] at fills
  | argument :: others, ⟨mnemonic, labels, arguments, shape :: later, filled⟩, fills => by
      simp only [fill] at fills
      split at fills
      next admitted =>
        let next : Builder :=
          ⟨mnemonic, labels, arguments ++ [argument], later, fill_concat filled admitted⟩
        have taken :
            Builder.argument ⟨mnemonic, labels, arguments, shape :: later, filled⟩ argument =
              .ok next :=
          argument_eq_ok_iff.mpr ⟨shape, rfl, admitted, rfl, rfl, rfl⟩
        obtain ⟨allFilled, success⟩ := foldlM_argument_of_fill others next fills
        refine ⟨by simpa [next] using allFilled, ?_⟩
        rw [List.foldlM_cons, bind_eq_ok_iff]
        exact ⟨next, taken, by simpa [next] using success⟩
      next => simp at fills

/-- A builder that took some arguments holds them after its own and is otherwise the same. -/
theorem parts_of_foldlM_argument :
    ∀ {arguments : List Argument} {builder final : Builder},
      arguments.foldlM Builder.argument builder = .ok final →
        final.mnemonic = builder.mnemonic ∧ final.labels = builder.labels ∧
          final.arguments = builder.arguments ++ arguments
  | [], builder, final, success => by
      cases success
      simp
  | argument :: others, builder, final, success => by
      rw [List.foldlM_cons, bind_eq_ok_iff] at success
      obtain ⟨next, taken, success⟩ := success
      obtain ⟨_, _, _, mnemonic, labels, arguments⟩ := argument_eq_ok_iff.mp taken
      obtain ⟨finalMnemonic, finalLabels, finalArguments⟩ := parts_of_foldlM_argument success
      refine ⟨finalMnemonic.trans mnemonic, finalLabels.trans labels, ?_⟩
      rw [finalArguments, arguments, List.append_assoc]
      rfl

/-- A builder refuses an argument for which no shape is open, and one that the next open shape does
not admit. -/
theorem argument_eq_error_iff {builder : Builder} {argument : Argument} {error : ArgumentError} :
    builder.argument argument = .error error ↔
      (builder.remaining = [] ∧ error = .tooMany builder.mnemonic argument) ∨
        ∃ shape rest, builder.remaining = shape :: rest ∧ shape.admits argument = false ∧
          error = .unsupported builder.mnemonic builder.arguments.length shape argument := by
  obtain ⟨mnemonic, labels, arguments, remaining, filled⟩ := builder
  cases remaining with
  | nil => simp only [Builder.argument, Except.error.injEq]; grind
  | cons shape rest =>
      simp only [Builder.argument]
      split
      next admitted => simp only [reduceCtorEq, List.cons.injEq, false_iff]; grind
      next refused => simp only [Except.error.injEq, List.cons.injEq]; grind

/-- Building succeeds exactly if no shape is left, and changes nothing then. -/
theorem build_eq_ok_iff {builder : Builder} {instruction : Instruction} :
    builder.build = .ok instruction ↔
      builder.remaining = [] ∧ instruction.mnemonic = builder.mnemonic ∧
        instruction.labels = builder.labels ∧ instruction.arguments = builder.arguments := by
  obtain ⟨mnemonic, labels, arguments, remaining, filled⟩ := builder
  obtain ⟨otherMnemonic, otherLabels, otherArguments, fits⟩ := instruction
  cases remaining with
  | nil => simp only [build, Except.ok.injEq, Instruction.mk.injEq]; grind
  | cons shape rest => simp [build]

/-- Building fails exactly if a shape is left, and says how many arguments there are. -/
theorem build_eq_error_iff {builder : Builder} {error : ArgumentError} :
    builder.build = .error error ↔
      builder.remaining ≠ [] ∧
        error = .missing builder.mnemonic builder.mnemonic.arity builder.arguments.length := by
  obtain ⟨mnemonic, labels, arguments, remaining, filled⟩ := builder
  cases remaining with
  | nil => simp [build]
  | cons shape rest => simp only [build, Except.error.injEq]; grind

end Builder

/-- A mnemonic has its first shape and no other. -/
theorem Mnemonic.shapes_eq_toList (mnemonic : Mnemonic) :
    mnemonic.shapes = (mnemonic.shape? 0).toList := by
  cases mnemonic <;> rfl

/-- No mnemonic takes more than one argument. -/
theorem Mnemonic.shapes_eq_cons_iff {mnemonic : Mnemonic} {shape : Shape} {rest : List Shape} :
    mnemonic.shapes = shape :: rest ↔ mnemonic.shape? 0 = some shape ∧ rest = [] := by
  rw [shapes_eq_toList]
  cases mnemonic.shape? 0 with
  | none => simp
  | some other => simp [eq_comm]

theorem Mnemonic.arity_eq_one {mnemonic : Mnemonic} {shape : Shape}
    (takes : mnemonic.shape? 0 = some shape) : mnemonic.arity = 1 := by
  rw [arity, shapes_eq_toList, takes]
  rfl

/-- Why a mnemonic does not take an argument, or does not do without one. -/
inductive Mnemonic.Refuses (mnemonic : Mnemonic) : Option Argument → ArgumentError → Prop where
  | tooMany {argument : Argument} (none : mnemonic.arity = 0) :
      Refuses mnemonic (some argument) (.tooMany mnemonic argument)
  | unsupported {argument : Argument} {shape : Shape} (takes : mnemonic.shape? 0 = some shape)
      (refused : shape.admits argument = false) :
      Refuses mnemonic (some argument) (.unsupported mnemonic 0 shape argument)
  | missing (one : mnemonic.arity = 1) : Refuses mnemonic none (.missing mnemonic 1 0)

namespace Builder

variable {mnemonic : Mnemonic} {labels : List String} {argument : Argument}

/-- A builder without arguments refuses one for the reason that its mnemonic gives. -/
theorem argument_start_eq_error_iff {reason : ArgumentError} :
    Builder.argument { start mnemonic with labels := labels } argument = .error reason ↔
      mnemonic.Refuses (some argument) reason := by
  rw [argument_eq_error_iff]
  show (mnemonic.shapes = [] ∧ reason = .tooMany mnemonic argument) ∨
    (∃ shape rest, mnemonic.shapes = shape :: rest ∧ shape.admits argument = false ∧
      reason = .unsupported mnemonic 0 shape argument) ↔ _
  constructor
  · rintro (⟨none, rfl⟩ | ⟨shape, rest, takes, refused, rfl⟩)
    · exact .tooMany (List.length_eq_zero_iff.mpr none)
    · exact .unsupported (Mnemonic.shapes_eq_cons_iff.mp takes).1 refused
  · rintro (none | ⟨takes, refused⟩ | _)
    · exact .inl ⟨List.length_eq_zero_iff.mp none, rfl⟩
    · exact .inr ⟨_, [], Mnemonic.shapes_eq_cons_iff.mpr ⟨takes, rfl⟩, refused, rfl⟩

/-- A mnemonic that takes an argument takes no other, so a builder that took one is complete. -/
theorem build_ne_error_of_argument {next : Builder}
    (taken : Builder.argument { start mnemonic with labels := labels } argument = .ok next)
    (reason : ArgumentError) : next.build ≠ .error reason := by
  obtain ⟨shape, takes, _⟩ := argument_eq_ok_iff.mp taken
  have closed := (Mnemonic.shapes_eq_cons_iff.mp takes).2
  intro failed
  exact (build_eq_error_iff.mp failed).1 closed

end Builder

namespace Instruction

theorem make_of_fits {mnemonic : Mnemonic} {arguments : List Argument} (labels : List String)
    (fits : fill mnemonic.shapes arguments = some []) :
    make mnemonic labels arguments = .ok ⟨mnemonic, labels, arguments, fits⟩ := by
  obtain ⟨filled, success⟩ := Builder.foldlM_argument_of_fill arguments
    (labels.foldl Builder.label (Builder.start mnemonic))
    (by simpa [Builder.foldl_label, Builder.start] using fits)
  rw [make, success]
  simp [Builder.foldl_label, Builder.start, Builder.build, bind, Except.bind]

/-- Parts make an instruction exactly when they are its parts. -/
theorem make_eq_ok_iff {mnemonic : Mnemonic} {labels : List String} {arguments : List Argument}
    {instruction : Instruction} :
    make mnemonic labels arguments = .ok instruction ↔
      instruction.mnemonic = mnemonic ∧ instruction.labels = labels ∧
        instruction.arguments = arguments := by
  constructor
  · intro made
    simp only [make, bind_eq_ok_iff] at made
    obtain ⟨complete, fed, built⟩ := made
    obtain ⟨_, sameMnemonic, sameLabels, sameArguments⟩ := Builder.build_eq_ok_iff.mp built
    obtain ⟨fedMnemonic, fedLabels, fedArguments⟩ := Builder.parts_of_foldlM_argument fed
    rw [sameMnemonic, sameLabels, sameArguments, fedMnemonic, fedLabels, fedArguments]
    simp [Builder.foldl_label, Builder.start]
  · rintro ⟨rfl, rfl, rfl⟩
    exact make_of_fits _ instruction.fits

/-- Arguments make an instruction exactly when they fit. -/
theorem exists_make_iff {mnemonic : Mnemonic} {labels : List String} {arguments : List Argument} :
    (∃ instruction, make mnemonic labels arguments = .ok instruction) ↔
      fill mnemonic.shapes arguments = some [] := by
  constructor
  · rintro ⟨instruction, made⟩
    obtain ⟨rfl, _, rfl⟩ := make_eq_ok_iff.mp made
    exact instruction.fits
  · intro fits
    exact ⟨_, make_of_fits labels fits⟩

/-- An instruction is not made without the argument that its mnemonic takes. -/
theorem make_nil_eq_error_iff {mnemonic : Mnemonic} {labels : List String}
    {reason : ArgumentError} :
    make mnemonic labels [] = .error reason ↔ mnemonic.Refuses none reason := by
  rw [make, Builder.foldl_label]
  show Builder.build _ = .error reason ↔ _
  rw [Builder.build_eq_error_iff]
  show mnemonic.shapes ≠ [] ∧ reason = .missing mnemonic mnemonic.arity 0 ↔ _
  constructor
  · rintro ⟨more, rfl⟩
    obtain ⟨shape, rest, takes⟩ := List.exists_cons_of_ne_nil more
    have one := Mnemonic.arity_eq_one (Mnemonic.shapes_eq_cons_iff.mp takes).1
    rw [one]
    exact .missing one
  · rintro (_ | _ | one)
    refine ⟨fun none => ?_, by rw [one]⟩
    simp [Mnemonic.arity, none] at one

theorem make_singleton_eq_error_iff {mnemonic : Mnemonic} {labels : List String}
    {argument : Argument} {reason : ArgumentError} :
    make mnemonic labels [argument] = .error reason ↔ mnemonic.Refuses (some argument) reason := by
  rw [make, Builder.foldl_label, List.foldlM_cons, bind_assoc, bind_eq_error_iff,
    ← Builder.argument_start_eq_error_iff]
  apply or_iff_left
  rintro ⟨next, taken, failed⟩
  exact Builder.build_ne_error_of_argument taken reason failed

theorem make_eq_error_iff {mnemonic : Mnemonic} {labels : List String} {reason : ArgumentError} :
    ∀ {argument : Option Argument},
      make mnemonic labels argument.toList = .error reason ↔ mnemonic.Refuses argument reason
  | none => make_nil_eq_error_iff
  | some _ => make_singleton_eq_error_iff

theorem length_arguments (instruction : Instruction) :
    instruction.arguments.length = instruction.mnemonic.arity := by
  have := length_fill instruction.fits
  simpa [Mnemonic.arity] using this.symm

/-- An instruction has its first argument and no other. -/
theorem arguments_eq_toList (instruction : Instruction) :
    instruction.arguments = (instruction.argument? 0).toList := by
  have few : instruction.mnemonic.arity ≤ 1 := by cases instruction.mnemonic <;> decide
  have count := instruction.length_arguments
  unfold argument?
  match same : instruction.arguments with
  | [] => rfl
  | [argument] => rfl
  | first :: second :: rest =>
      rw [same] at count
      simp only [List.length_cons] at count
      omega

end Instruction

end Ram
