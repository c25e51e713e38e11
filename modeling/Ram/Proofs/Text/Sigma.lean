import Ram.Proofs.Text.Context

/-!
# The two small letters of a sigma

The lowercase form of a part of a text depends on what stands around it by no more than the choice
between the two small letters of a sigma (`map_mergeSigma_lowerWithin`).

What stands before it does not matter if the first character of the part becomes a letter of ASCII
(`lowerWithin_of_letter`), since no such character is case-ignorable.  What stands behind it matters
for one sigma at most: the last one, if only case-ignorable characters follow it within the part and
a cased letter comes before it (`lowerWithin_eq_lowerAfter`).
-/

namespace Ram.Text

/-! ## One letter for both -/

/-- The character, with one letter for both small sigmas. -/
def mergeSigma (c : Char) : Char := if c = 'ς' then 'σ' else c

/-- What does not tell the two small sigmas apart sees nothing of merging them. -/
theorem apply_mergeSigma {α : Type} (view : Char → α) (same : view 'σ' = view 'ς') (c : Char) :
    view (mergeSigma c) = view c := by
  unfold mergeSigma
  split
  next sigma => rw [sigma, same]
  next => rfl

theorem map_mergeSigma_lowerBetween (c : Char) (before after otherBefore otherAfter : List Char) :
    (lowerBetween before c after).map mergeSigma =
      (lowerBetween otherBefore c otherAfter).map mergeSigma := by
  have merged (final : Bool) : mergeSigma (if final then 'ς' else 'σ') = 'σ' := by
    cases final <;> rfl
  unfold lowerBetween
  split
  next => rw [List.map_singleton, List.map_singleton, merged, merged]
  next => rfl

/-- A part of a text has the same lowercase form everywhere, but for its sigmas. -/
theorem map_mergeSigma_lowerWithin :
    ∀ (text before after otherBefore otherAfter : List Char),
      (lowerWithin before text after).map mergeSigma =
        (lowerWithin otherBefore text otherAfter).map mergeSigma
  | [], _, _, _, _ => rfl
  | c :: rest, before, after, otherBefore, otherAfter => by
      rw [lowerWithin_cons, lowerWithin_cons, List.map_append, List.map_append,
        map_mergeSigma_lowerBetween c _ _ otherBefore (rest ++ otherAfter),
        map_mergeSigma_lowerWithin rest _ _ (c :: otherBefore) otherAfter]

/-! ## What stands before -/

theorem meetsCased_append_kept {kept : Char} (stops : isCaseIgnorable kept = false)
    (text further : List Char) :
    meetsCased (text ++ kept :: further) = meetsCased (text ++ [kept]) := by
  have head (rest : List Char) : meetsCased (kept :: rest) = isCased kept := by
    rw [meetsCased, List.dropWhile_cons_of_neg (by simp [stops])]
  rw [meetsCased_append, meetsCased_append, head, head]

theorem lowerWithin_append_kept {kept : Char} (stops : isCaseIgnorable kept = false)
    (further after : List Char) :
    ∀ before text : List Char,
      lowerWithin (before ++ kept :: further) text after = lowerWithin (before ++ [kept]) text after
  | _, [] => rfl
  | before, c :: rest => by
      rw [lowerWithin_cons, lowerWithin_cons, ← List.cons_append, ← List.cons_append,
        lowerWithin_append_kept stops further after, lowerBetween, lowerBetween, endsWord, endsWord,
        meetsCased_append_kept stops]

/-- What stands before a part does not matter if its first character is not skipped. -/
theorem lowerWithin_of_kept {kept : Char} (stops : isCaseIgnorable kept = false)
    (notSigma : kept ≠ 'Σ') (before rest after : List Char) :
    lowerWithin before (kept :: rest) after = lowerWithin [] (kept :: rest) after := by
  have later := lowerWithin_append_kept stops before after [] rest
  rw [List.nil_append, List.nil_append] at later
  rw [lowerWithin_cons, lowerWithin_cons, later, lowerBetween, lowerBetween, if_neg notSigma,
    if_neg notSigma]

/-! ### First letters -/

/-- The characters that become a letter of ASCII, the dotted capital `İ` and the Kelvin sign among
them. -/
def letterRanges : CodeRanges :=
  [(0x41, 0x5A), (0x61, 0x7A), (0x130, 0x130), (0x212A, 0x212A)]

theorem letterRanges_apart :
    (letterRanges.apart caseIgnorableRanges && lowercaseRuns.all fun run =>
      !Nat.beq (run.lower run.first) 0x6B || Nat.beq run.first 0x212A && Nat.beq run.last 0x212A) =
        true := by
  decide +kernel

theorem toNat_of_isLower {c : Char} (letter : c.isLower = true) :
    0x61 ≤ c.toNat ∧ c.toNat ≤ 0x7A := by
  have bounds : (decide (c.val ≥ 97) && decide (c.val ≤ 122)) = true := letter
  rw [Bool.and_eq_true, decide_eq_true_eq, decide_eq_true_eq] at bounds
  exact bounds

theorem code_of_kelvin {run : CaseRun} {code : Nat} (member : run ∈ lowercaseRuns)
    (covered : run.covers code = true) (kelvin : run.lower code = 0x6B) : code = 0x212A := by
  have tables := letterRanges_apart
  rw [Bool.and_eq_true] at tables
  have row := List.all_eq_true.mp tables.2 run member
  have lands := lands_of_mem member
  obtain ⟨above, below⟩ := CaseRun.lower_bounds covered
  obtain ⟨first, last, _⟩ := CaseRun.covers_iff.mp covered
  simp only [Bool.or_eq_true, Bool.and_eq_true, Bool.not_eq_true', Nat.beq_eq,
    ← Bool.not_eq_true] at row
  omega

theorem holds_letterRanges {c d : Char} (first : d ∈ (lowerChar c).head?)
    (letter : d.isLower = true) : letterRanges.holds c = true := by
  rw [CodeRanges.holds_iff]
  have bounds := toNat_of_isLower letter
  unfold lowerChar at first
  split at first
  next =>
    obtain rfl : d = c.toLower := by simpa [eq_comm] using first
    unfold Char.toLower at bounds
    split at bounds
    next capital => exact ⟨(0x41, 0x5A), by decide, capital⟩
    next => exact ⟨(0x61, 0x7A), by decide, bounds⟩
  next notAscii =>
    split at first
    next dotted => exact ⟨(0x130, 0x130), by decide, by rw [dotted]; decide⟩
    next =>
      obtain rfl : d = Char.ofNat (lowerCode c.toNat) := by simpa [eq_comm] using first
      rcases lowerCode_cases c.toNat with same | ⟨run, member, covered, lower⟩
      · rw [same, Char.ofNat_toNat] at bounds
        omega
      · rcases lower_cases member covered with kelvin | ⟨large, _, toNat⟩
        · rw [code_of_kelvin member covered kelvin]
          exact ⟨(0x212A, 0x212A), by decide, by decide⟩
        · rw [lower, toNat] at bounds
          omega

/-- A character that becomes a letter of ASCII is not case-ignorable. -/
theorem isCaseIgnorable_of_letter {c d : Char} (first : d ∈ (lowerChar c).head?)
    (letter : d.isLower = true) : isCaseIgnorable c = false := by
  have tables := letterRanges_apart
  rw [Bool.and_eq_true] at tables
  exact CodeRanges.not_holds_of_apart tables.1 (holds_letterRanges first letter)

/-- What stands before a part does not matter if the part becomes a text with a letter of ASCII in
front. -/
theorem lowerWithin_of_letter {before text after : List Char} {d : Char}
    (first : d ∈ (lowerWithin before text after).head?) (letter : d.isLower = true) :
    lowerWithin before text after = lowerWithin [] text after := by
  cases text with
  | nil => rfl
  | cons c rest =>
      obtain ⟨_, same, lowered⟩ := head?_lowerWithin first
      cases same
      have notSigma : c ≠ 'Σ' := by
        rintro rfl
        have sigma : ∀ final : Bool, (if final then 'ς' else 'σ').isLower = false := by decide
        rw [lowerBetween, if_pos rfl, List.head?_cons, Option.mem_some_iff] at lowered
        rw [← lowered, sigma] at letter
        cases letter
      rw [lowerBetween, if_neg notSigma] at lowered
      exact lowerWithin_of_kept (isCaseIgnorable_of_letter lowered letter) notSigma before rest after

/-! ## What stands behind -/

/-- Whether the last cased letter of a text that follows another one is a capital sigma with a cased
letter before it.  The other text is read backwards. -/
def EndsInSigma (before text : List Char) : Prop :=
  ∃ front back, text = front ++ 'Σ' :: back ∧ back.all isCaseIgnorable = true ∧
    meetsCased (front.reverse ++ before) = true

theorem EndsInSigma.cons {before text : List Char} {c : Char}
    (ends : EndsInSigma (c :: before) text) : EndsInSigma before (c :: text) := by
  obtain ⟨front, back, rfl, skipped, cased⟩ := ends
  exact ⟨c :: front, back, rfl, skipped, by simpa using cased⟩

/-- What stands behind a part matters only if the part ends in a sigma and a cased letter follows
it. -/
theorem lowerWithin_eq_lowerAfter :
    ∀ {text before after : List Char}, ¬ (EndsInSigma before text ∧ meetsCased after = true) →
      lowerWithin before text after = lowerAfter before text
  | [], _, _, _ => rfl
  | c :: rest, before, after, plain => by
      have later := @lowerWithin_eq_lowerAfter rest (c :: before) after
        fun ends => plain ⟨ends.1.cons, ends.2⟩
      rw [lowerWithin_cons, lowerAfter_cons, later, lowerBetween, lowerBetween]
      split
      next sigma =>
        -- a sigma followed by a cased letter, in the part or behind it, ends no word
        have same : endsWord before (rest ++ after) = endsWord before rest := by
          rw [endsWord, endsWord, meetsCased_append]
          split
          next skipped =>
            rw [meetsCased_of_ignorable skipped]
            cases follows : meetsCased after with
            | false => rfl
            | true =>
                have alone : meetsCased before = false := by
                  rw [Bool.eq_false_iff]
                  intro cased
                  exact plain ⟨⟨[], rest, by rw [sigma]; rfl, skipped, cased⟩, follows⟩
                rw [alone]
                rfl
          next => rfl
        rw [same]
      next => rfl

end Ram.Text
