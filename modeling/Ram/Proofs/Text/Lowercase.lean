import Ram.Text.Lowercase

/-!
# Small characters

A character is *small* when it is its own lowercase form.  Lowercasing leaves only small
characters in a text (`isSmall_of_mem_lowercase`), and a text of small characters stays as
it is (`lowercase_of_small`).  So a text is its own lowercase form exactly when each of its
characters is, although the form of a sigma depends on its neighbours.

The first fact rests on the case table.  A run sends its capitals to letters that no run
covers, and this is checked run against run: the letters of the one lie on one side of the
capitals of the other, or both come every second code point and never meet.
-/

namespace Ram.Text

/-! ## The letters of a run -/

/-- Whether an interval of code points holds nothing but characters outside ASCII, and not `İ`.
It may also be `k` alone, which the Kelvin sign lands on. -/
def landsOn (first last : Nat) : Bool :=
  (Nat.ble 0x80 first && Nat.blt last 0x130) || (Nat.blt 0x130 first && Nat.blt last 0xD800)
    || (Nat.ble 0xE000 first && Nat.blt last 0x110000) || (Nat.beq first 0x6B && Nat.beq last 0x6B)

/-- Whether the small letters of a run are characters with nothing special about them. -/
def CaseRun.lands (run : CaseRun) : Bool :=
  landsOn (run.lower run.first) (run.lower run.last)

/-- Whether the small letters of a run are all odd or all even, and the capitals of another
one are all of the other kind. -/
def CaseRun.alternates (run other : CaseRun) : Bool :=
  (Nat.beq (run.stride % 2) 0 || Nat.beq run.first run.last) && Nat.beq (other.stride % 2) 0
    && Nat.beq ((run.lower run.first + other.first) % 2) 1

/-- Whether no small letter of a run is a capital of another one. -/
def CaseRun.misses (run other : CaseRun) : Bool :=
  Nat.blt (run.lower run.last) other.first || Nat.blt other.last (run.lower run.first)
    || run.alternates other

theorem CaseRun.covers_iff {run : CaseRun} {code : Nat} :
    run.covers code = true ↔
      run.first ≤ code ∧ code ≤ run.last ∧ run.stride ∣ code - run.first := by
  simp [covers, Nat.dvd_iff_mod_eq_zero, and_assoc]

theorem CaseRun.lower_bounds {run : CaseRun} {code : Nat} (covered : run.covers code = true) :
    run.lower run.first ≤ run.lower code ∧ run.lower code ≤ run.lower run.last := by
  obtain ⟨above, below, _⟩ := covers_iff.mp covered
  unfold lower
  omega

/-- Where the letters of a run are all odd or all even, they are so like the first one. -/
theorem CaseRun.lower_parity {run : CaseRun} {code : Nat} (covered : run.covers code = true)
    (positive : 0 < run.lower run.first) (even : run.stride % 2 = 0 ∨ run.first = run.last) :
    run.lower code % 2 = run.lower run.first % 2 := by
  obtain ⟨above, below, divides⟩ := covers_iff.mp covered
  have two : 2 ∣ code - run.first := by
    rcases even with even | single
    · exact Nat.dvd_trans (Nat.dvd_of_mod_eq_zero even) divides
    · exact ⟨0, by omega⟩
  unfold lower at positive ⊢
  omega

/-- The small letter of a capital is no capital of a run that is missed. -/
theorem CaseRun.not_covers_lower {run other : CaseRun} {code : Nat}
    (covered : run.covers code = true) (positive : 0 < run.lower run.first)
    (missed : run.misses other = true) : other.covers (run.lower code) = false := by
  obtain ⟨above, below⟩ := lower_bounds covered
  rw [Bool.eq_false_iff]
  intro met
  obtain ⟨otherAbove, otherBelow, otherDivides⟩ := covers_iff.mp met
  simp only [misses, alternates, Bool.or_eq_true, Bool.and_eq_true, Nat.blt_eq, Nat.beq_eq] at missed
  rcases missed with (left | right) | ⟨⟨even, otherEven⟩, odd⟩
  · omega
  · omega
  · have parity := lower_parity covered positive even
    have two := Nat.dvd_trans (Nat.dvd_of_mod_eq_zero otherEven) otherDivides
    omega

/-- Every run lands on characters with nothing special about them, and leads into no run. -/
theorem lowercaseRuns_lead :
    (lowercaseRuns.all fun run => run.lands && lowercaseRuns.all run.misses) = true := by
  decide +kernel

theorem lands_of_mem {run : CaseRun} (member : run ∈ lowercaseRuns) :
    ((0x80 ≤ run.lower run.first ∧ run.lower run.last < 0x130 ∨
        0x130 < run.lower run.first ∧ run.lower run.last < 0xD800) ∨
      0xE000 ≤ run.lower run.first ∧ run.lower run.last < 0x110000) ∨
        run.lower run.first = 0x6B ∧ run.lower run.last = 0x6B := by
  have lead := List.all_eq_true.mp lowercaseRuns_lead run member
  rw [Bool.and_eq_true] at lead
  simpa [CaseRun.lands, landsOn] using lead.1

theorem misses_of_mem {run other : CaseRun} (member : run ∈ lowercaseRuns)
    (otherMember : other ∈ lowercaseRuns) : run.misses other = true := by
  have lead := List.all_eq_true.mp lowercaseRuns_lead run member
  rw [Bool.and_eq_true] at lead
  exact List.all_eq_true.mp lead.2 other otherMember

/-! ## Small characters -/

/-- Whether a character is its own lowercase form. -/
def isSmall (c : Char) : Bool := lowerChar c = [c]

theorem isSmall_iff {c : Char} : isSmall c = true ↔ lowerChar c = [c] := by
  simp [isSmall]

/-- The forms that lowercasing does not take from a run are small, and a capital sigma is not. -/
theorem isSmall_forms : (['i', '\u0307', 'ς', 'σ'].all isSmall && !isSmall 'Σ') = true :=
  rfl

theorem isSmall_of_form {c : Char} (form : c ∈ ['i', '\u0307', 'ς', 'σ']) : isSmall c = true := by
  have forms := isSmall_forms
  rw [Bool.and_eq_true] at forms
  exact List.all_eq_true.mp forms.1 c form

theorem isSmall_toLower {c : Char} (ascii : c.toNat < 0x80) : isSmall c.toLower = true := by
  have table : ((List.range 0x80).all fun n => isSmall (Char.ofNat n).toLower) = true := by decide
  simpa using List.all_eq_true.mp table c.toNat (List.mem_range.mpr ascii)

theorem lowerCode_eq_self {code : Nat}
    (uncovered : ∀ run ∈ lowercaseRuns, run.covers code = false) : lowerCode code = code := by
  have absent : lowercaseRuns.find? (·.covers code) = none := by
    rw [List.find?_eq_none]
    intro run member
    simp [uncovered run member]
  simp [lowerCode, absent]

/-- Either no run covers a code point, or its lowercase form is that of a run. -/
theorem lowerCode_cases (code : Nat) :
    lowerCode code = code ∨
      ∃ run ∈ lowercaseRuns, run.covers code = true ∧ lowerCode code = run.lower code := by
  unfold lowerCode
  cases found : lowercaseRuns.find? (·.covers code) with
  | none => exact .inl rfl
  | some run =>
      have covered : run.covers code = true := by simpa using List.find?_some found
      exact .inr ⟨run, List.mem_of_find?_eq_some found, covered, rfl⟩

/-- A run leads to `k` or to a character outside ASCII that is not `İ`. -/
theorem lower_cases {run : CaseRun} {code : Nat} (member : run ∈ lowercaseRuns)
    (covered : run.covers code = true) :
    run.lower code = 0x6B ∨
      0x80 ≤ run.lower code ∧ run.lower code ≠ 0x130 ∧
        (Char.ofNat (run.lower code)).toNat = run.lower code := by
  obtain ⟨above, below⟩ := CaseRun.lower_bounds covered
  have lands := lands_of_mem member
  by_cases kelvin : run.lower code = 0x6B
  · exact .inl kelvin
  · have valid : (run.lower code).isValidChar := by
      unfold Nat.isValidChar
      omega
    refine .inr ⟨by omega, by omega, ?_⟩
    rw [Char.ofNat, dif_pos valid]
    rfl

theorem isSmall_lower {run : CaseRun} {code : Nat} (member : run ∈ lowercaseRuns)
    (covered : run.covers code = true) : isSmall (Char.ofNat (run.lower code)) = true := by
  have positive : 0 < run.lower run.first := by
    have := lands_of_mem member
    omega
  rcases lower_cases member covered with kelvin | ⟨notAscii, notDot, toNat⟩
  · rw [kelvin]
    decide
  · have uncovered : lowerCode (run.lower code) = run.lower code := by
      apply lowerCode_eq_self
      intro other otherMember
      exact CaseRun.not_covers_lower covered positive (misses_of_mem member otherMember)
    have notDotted : Char.ofNat (run.lower code) ≠ 'İ' := by
      intro dotted
      have : run.lower code = 0x130 := by rw [← toNat, dotted]; rfl
      omega
    have notBelow : ¬ run.lower code < 0x80 := by omega
    simp [isSmall_iff, lowerChar, toNat, notBelow, notDotted, uncovered]

theorem isSmall_of_mem_lowerChar {c d : Char} (member : d ∈ lowerChar c) : isSmall d = true := by
  unfold lowerChar at member
  split at member
  next ascii =>
    rw [List.mem_singleton] at member
    rw [member]
    exact isSmall_toLower ascii
  next notAscii =>
    split at member
    next dotted =>
      apply isSmall_of_form
      rcases List.mem_cons.mp member with first | second
      · simp [first]
      · simp [List.mem_singleton.mp second]
    next notDotted =>
      rw [List.mem_singleton] at member
      subst member
      rcases lowerCode_cases c.toNat with same | ⟨run, runMember, covered, lower⟩
      · rw [same, Char.ofNat_toNat]
        simp [isSmall_iff, lowerChar, notAscii, notDotted, same]
      · rw [lower]
        exact isSmall_lower runMember covered

/-! ## Lowercase texts -/

theorem isSmall_of_mem_lowerBetween {before after : List Char} {c d : Char}
    (member : d ∈ lowerBetween before c after) : isSmall d = true := by
  unfold lowerBetween at member
  split at member
  next sigma =>
    apply isSmall_of_form
    split at member <;> simp_all
  next => exact isSmall_of_mem_lowerChar member

theorem isSmall_of_mem_lowerAfter {d : Char} :
    ∀ {before text : List Char}, d ∈ lowerAfter before text → isSmall d = true
  | _, [], member => by simp at member
  | before, c :: rest, member => by
      rw [lowerAfter_cons, List.mem_append] at member
      rcases member with first | later
      · exact isSmall_of_mem_lowerBetween first
      · exact isSmall_of_mem_lowerAfter later

theorem isSmall_of_mem_lowercase {text : List Char} {c : Char} (member : c ∈ lowercase text) :
    isSmall c = true :=
  isSmall_of_mem_lowerAfter member

theorem lowerAfter_eq_flatMap :
    ∀ {before text : List Char}, 'Σ' ∉ text → lowerAfter before text = text.flatMap lowerChar
  | _, [], _ => rfl
  | before, c :: rest, absent => by
      rw [List.mem_cons, not_or] at absent
      rw [lowerAfter_cons, lowerAfter_eq_flatMap absent.2, List.flatMap_cons, lowerBetween,
        if_neg (Ne.symm absent.1)]

/-- Only a capital sigma makes a lowercase form depend on what stands around it. -/
theorem lowercase_eq_flatMap {text : List Char} (absent : 'Σ' ∉ text) :
    lowercase text = text.flatMap lowerChar :=
  lowerAfter_eq_flatMap absent

theorem sigma_not_mem {text : List Char} (small : ∀ c ∈ text, isSmall c = true) : 'Σ' ∉ text := by
  intro member
  have forms := isSmall_forms
  rw [small _ member, Bool.not_true, Bool.and_false] at forms
  cases forms

theorem lowercase_of_small {text : List Char} (small : ∀ c ∈ text, isSmall c = true) :
    lowercase text = text := by
  rw [lowercase_eq_flatMap (sigma_not_mem small)]
  induction text with
  | nil => rfl
  | cons c rest induction =>
      rw [List.flatMap_cons, isSmall_iff.mp (small c (.head _)),
        induction fun d member => small d (.tail c member)]
      rfl

/-- Without a capital sigma two texts in a row are lowercased one by one. -/
theorem lowercase_append {first second : List Char} (absent : 'Σ' ∉ first)
    (alsoAbsent : 'Σ' ∉ second) :
    lowercase (first ++ second) = lowercase first ++ lowercase second := by
  have nowhere : 'Σ' ∉ first ++ second := by simp [absent, alsoAbsent]
  rw [lowercase_eq_flatMap nowhere, lowercase_eq_flatMap absent, lowercase_eq_flatMap alsoAbsent,
    List.flatMap_append]

theorem lowercase_cons {c : Char} {text : List Char} (small : isSmall c = true)
    (absent : 'Σ' ∉ text) : lowercase (c :: text) = c :: lowercase text := by
  have alone : ∀ d ∈ [c], isSmall d = true := by simpa using small
  rw [← List.singleton_append, lowercase_append (sigma_not_mem alone) absent,
    lowercase_of_small alone, List.singleton_append]

theorem lowercase_eq_self_iff {text : List Char} :
    lowercase text = text ↔ ∀ c ∈ text, isSmall c = true := by
  constructor
  · intro same c member
    rw [← same] at member
    exact isSmall_of_mem_lowercase member
  · exact lowercase_of_small

end Ram.Text
