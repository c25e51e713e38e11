import Ram.Proofs.Text.Blank
import Ram.Proofs.Text.Lowercase

/-!
# Lowercase forms and the text around them

What becomes of a character in lowercase depends on the text around it only for a capital sigma.
`lowerWithin` is the lowercase form of a part of a text between the parts before and after it.

*Marks*, which are the blanks, the colon and the semicolon, are kept and no other character becomes
one (`isMark_of_mem_lowerBetween`), so a text and its lowercase form are divided alike.

The search for a cased letter beside a sigma goes over case-ignorable characters, which the colon
is one of.  It ends at a *wall*: a character that is neither cased nor case-ignorable, such as a
blank or a semicolon.  So a text is lowercased on either side of a wall on its own
(`lowercase_append_mark`), and on either side of a colon it is not.
-/

namespace Ram.Text

/-! ## Marks -/

/-- Whether two sets of characters are apart, range by range. -/
def CodeRanges.apart (ranges others : CodeRanges) : Bool :=
  ranges.all fun range => others.all fun other =>
    Nat.blt range.2 other.1 || Nat.blt other.2 range.1

theorem CodeRanges.not_holds_of_apart {ranges others : CodeRanges} {c : Char}
    (disjoint : ranges.apart others = true) (held : ranges.holds c = true) :
    others.holds c = false := by
  rw [Bool.eq_false_iff, Ne, holds_iff]
  rintro ⟨other, otherMember, otherAbove, otherBelow⟩
  obtain ⟨range, member, above, below⟩ := holds_iff.mp held
  have pair := List.all_eq_true.mp (List.all_eq_true.mp disjoint range member) other otherMember
  simp only [Bool.or_eq_true, Nat.blt_eq] at pair
  omega

/-- Whether a character divides the parts of a line: a blank, a colon or a semicolon. -/
def isMark (c : Char) : Bool := isBlank c || c == ':' || c == ';'

theorem isMark_of_isBlank {c : Char} (blank : isBlank c = true) : isMark c = true := by
  simp [isMark, blank]

/-- The marks but for the colon. -/
def wallRanges : CodeRanges := (0x3B, 0x3B) :: blankRanges

theorem holds_wallRanges {c : Char} (mark : isMark c = true) (notColon : c ≠ ':') :
    wallRanges.holds c = true := by
  rw [CodeRanges.holds_iff]
  simp only [isMark, Bool.or_eq_true, beq_iff_eq, notColon, or_false] at mark
  rcases mark with blank | rfl
  · obtain ⟨range, member, bounds⟩ := CodeRanges.holds_iff.mp blank
    exact ⟨range, .tail _ member, bounds⟩
  · exact ⟨(0x3B, 0x3B), .head _, by decide⟩

/-- The capitals outside ASCII. -/
def capitalRanges : CodeRanges :=
  (0x130, 0x130) :: lowercaseRuns.map fun run => (run.first, run.last)

/-- The small letters that capitals outside ASCII become. -/
def smallRanges : CodeRanges :=
  lowercaseRuns.map fun run => (run.lower run.first, run.lower run.last)

/-- The marks but for the colon stand in no table of letters. -/
theorem wallRanges_apart :
    (wallRanges.apart capitalRanges && wallRanges.apart smallRanges
      && wallRanges.apart caseIgnorableRanges && wallRanges.apart casedRanges) = true := by
  decide +kernel

theorem not_holds_of_isMark {c : Char} (mark : isMark c = true) (notColon : c ≠ ':') :
    capitalRanges.holds c = false ∧ smallRanges.holds c = false ∧
      caseIgnorableRanges.holds c = false ∧ casedRanges.holds c = false := by
  have held := holds_wallRanges mark notColon
  have tables := wallRanges_apart
  simp only [Bool.and_eq_true] at tables
  obtain ⟨⟨⟨capital, small⟩, ignorable⟩, cased⟩ := tables
  exact ⟨CodeRanges.not_holds_of_apart capital held, CodeRanges.not_holds_of_apart small held,
    CodeRanges.not_holds_of_apart ignorable held, CodeRanges.not_holds_of_apart cased held⟩

theorem toLower_of_ascii {c : Char} (ascii : c.toNat < 0x80) :
    isMark c.toLower = isMark c ∧ (isMark c = true → c.toLower = c) := by
  have table : ((List.range 0x80).all fun n => isMark (Char.ofNat n).toLower == isMark (Char.ofNat n)
      && (!isMark (Char.ofNat n) || (Char.ofNat n).toLower == Char.ofNat n)) = true := by
    decide
  have row := List.all_eq_true.mp table c.toNat (List.mem_range.mpr ascii)
  rw [Char.ofNat_toNat] at row
  cases mark : isMark c with
  | false => simpa [mark] using row
  | true => simpa [mark] using row

theorem isSmall_of_isMark {c : Char} (mark : isMark c = true) : isSmall c = true := by
  rw [isSmall_iff, lowerChar]
  split
  next ascii => rw [(toLower_of_ascii ascii).2 mark]
  next notAscii =>
    have notColon : c ≠ ':' := by
      rintro rfl
      exact notAscii (by decide)
    have noCapital (range : Nat × Nat) (known : range ∈ capitalRanges)
        (bounds : range.1 ≤ c.toNat ∧ c.toNat ≤ range.2) : False := by
      have held := CodeRanges.holds_iff.mpr ⟨range, known, bounds⟩
      rw [(not_holds_of_isMark mark notColon).1] at held
      cases held
    have notDotted : c ≠ 'İ' := by
      rintro rfl
      exact noCapital (0x130, 0x130) (.head _) (by decide)
    have uncovered : lowerCode c.toNat = c.toNat := by
      apply lowerCode_eq_self
      intro run member
      rw [Bool.eq_false_iff]
      intro covered
      obtain ⟨above, below, _⟩ := CaseRun.covers_iff.mp covered
      exact noCapital _ (.tail _ (List.mem_map_of_mem member)) ⟨above, below⟩
    rw [if_neg notDotted, uncovered, Char.ofNat_toNat]

/-- The small letters of a run are no marks. -/
theorem isMark_lower {run : CaseRun} {code : Nat} (member : run ∈ lowercaseRuns)
    (covered : run.covers code = true) : isMark (Char.ofNat (run.lower code)) = false := by
  rcases lower_cases member covered with kelvin | ⟨notAscii, _, toNat⟩
  · rw [kelvin]
    decide
  · rw [Bool.eq_false_iff]
    intro mark
    have notColon : Char.ofNat (run.lower code) ≠ ':' := by
      intro colon
      rw [← toNat, colon] at notAscii
      exact absurd notAscii (by decide)
    have held : smallRanges.holds (Char.ofNat (run.lower code)) = true := by
      rw [CodeRanges.holds_iff, toNat]
      exact ⟨_, List.mem_map_of_mem member, CaseRun.lower_bounds covered⟩
    rw [(not_holds_of_isMark mark notColon).2.1] at held
    cases held

theorem isMark_of_mem_lowerChar {c d : Char} (member : d ∈ lowerChar c) : isMark d = isMark c := by
  cases mark : isMark c with
  | true =>
      rw [isSmall_iff.mp (isSmall_of_isMark mark), List.mem_singleton] at member
      rw [member, mark]
  | false =>
      unfold lowerChar at member
      split at member
      next ascii => rw [List.mem_singleton.mp member, (toLower_of_ascii ascii).1, mark]
      next =>
        split at member
        next =>
          have forms : (['i', '\u0307'].all fun c => !isMark c) = true := by decide
          simpa using List.all_eq_true.mp forms d member
        next =>
          rw [List.mem_singleton] at member
          rcases lowerCode_cases c.toNat with same | ⟨run, known, covered, lower⟩
          · rw [member, same, Char.ofNat_toNat, mark]
          · rw [member, lower, isMark_lower known covered]

theorem lowerChar_ne_nil (c : Char) : lowerChar c ≠ [] := by
  unfold lowerChar
  split
  next => exact List.cons_ne_nil _ _
  next => split <;> exact List.cons_ne_nil _ _

theorem lowerBetween_ne_nil (before : List Char) (c : Char) (after : List Char) :
    lowerBetween before c after ≠ [] := by
  unfold lowerBetween
  split
  next => exact List.cons_ne_nil _ _
  next => exact lowerChar_ne_nil c

theorem isMark_of_mem_lowerBetween {before after : List Char} {c d : Char}
    (member : d ∈ lowerBetween before c after) : isMark d = isMark c := by
  unfold lowerBetween at member
  split at member
  next sigma =>
    have forms : (['ς', 'σ'].all fun d => isMark d == isMark 'Σ') = true := by decide
    have known : d ∈ ['ς', 'σ'] := by
      split at member <;> simp_all
    rw [sigma]
    simpa using List.all_eq_true.mp forms d known
  next => exact isMark_of_mem_lowerChar member

theorem lowerBetween_of_isMark {c : Char} (mark : isMark c = true) (before after : List Char) :
    lowerBetween before c after = [c] := by
  have notSigma : c ≠ 'Σ' := by
    rintro rfl
    exact absurd mark (by decide)
  rw [lowerBetween, if_neg notSigma, isSmall_iff.mp (isSmall_of_isMark mark)]

/-! ## Parts of a text -/

/-- The lowercase form of a text between two others, the first one read backwards. -/
def lowerWithin (before text after : List Char) : List Char :=
  match text with
  | [] => []
  | c :: rest => lowerBetween before c (rest ++ after) ++ lowerWithin (c :: before) rest after

@[simp] theorem lowerWithin_nil (before after : List Char) : lowerWithin before [] after = [] := rfl

@[simp] theorem lowerWithin_cons (before rest after : List Char) (c : Char) :
    lowerWithin before (c :: rest) after =
      lowerBetween before c (rest ++ after) ++ lowerWithin (c :: before) rest after := rfl

/-- A text is lowercased part by part. -/
theorem lowerAfter_append :
    ∀ (text before after : List Char), lowerAfter before (text ++ after) =
      lowerWithin before text after ++ lowerAfter (text.reverse ++ before) after
  | [], _, _ => rfl
  | c :: rest, before, after => by
      rw [List.cons_append, lowerAfter_cons, lowerAfter_append rest, lowerWithin_cons,
        List.append_assoc, List.reverse_cons, List.append_assoc, List.singleton_append]

theorem lowerWithin_append :
    ∀ (first second before after : List Char), lowerWithin before (first ++ second) after =
      lowerWithin before first (second ++ after) ++
        lowerWithin (first.reverse ++ before) second after
  | [], _, _, _ => rfl
  | c :: rest, second, before, after => by
      rw [List.cons_append, lowerWithin_cons, lowerWithin_append rest, lowerWithin_cons,
        List.append_assoc, List.append_assoc, List.reverse_cons, List.append_assoc,
        List.singleton_append]

theorem lowerWithin_end (before text : List Char) :
    lowerWithin before text [] = lowerAfter before text := by
  have parts := lowerAfter_append text before []
  rwa [List.append_nil, lowerAfter_nil, List.append_nil, eq_comm] at parts

/-- No character becomes a mark. -/
theorem mem_of_mem_lowerWithin {d : Char} (mark : isMark d = true) :
    ∀ {before text after : List Char}, d ∈ lowerWithin before text after → d ∈ text
  | _, [], _, member => by simp at member
  | before, c :: rest, after, member => by
      rw [lowerWithin_cons, List.mem_append] at member
      rcases member with first | later
      · rw [isMark_of_mem_lowerBetween first] at mark
        rw [lowerBetween_of_isMark mark, List.mem_singleton] at first
        exact first ▸ .head _
      · exact .tail c (mem_of_mem_lowerWithin mark later)

theorem mem_of_mem_lowercase {d : Char} {text : List Char} (mark : isMark d = true)
    (member : d ∈ lowercase text) : d ∈ text := by
  rw [lowercase, ← lowerWithin_end] at member
  exact mem_of_mem_lowerWithin mark member

theorem lowerWithin_gap {gap : List Char} (blank : IsGap gap) (before after : List Char) :
    lowerWithin before gap after = gap := by
  induction gap generalizing before with
  | nil => rfl
  | cons c rest induction =>
      obtain ⟨first, others⟩ := List.forall_mem_cons.mp blank
      rw [lowerWithin_cons, lowerBetween_of_isMark (isMark_of_isBlank first), induction others]
      rfl

theorem lowerWithin_ne_nil {text : List Char} (nonempty : text ≠ []) (before after : List Char) :
    lowerWithin before text after ≠ [] := by
  obtain ⟨c, rest, rfl⟩ := List.exists_cons_of_ne_nil nonempty
  exact List.append_ne_nil_of_left_ne_nil (lowerBetween_ne_nil _ _ _) _

/-- The first character of a part in lowercase comes from its first character. -/
theorem head?_lowerWithin {before text after : List Char} {d : Char}
    (first : d ∈ (lowerWithin before text after).head?) :
    ∃ c ∈ text.head?, d ∈ (lowerBetween before c (text.tail ++ after)).head? := by
  cases text with
  | nil => cases first
  | cons c rest =>
      refine ⟨c, rfl, ?_⟩
      rwa [lowerWithin_cons, List.head?_append_of_ne_nil _ (lowerBetween_ne_nil _ _ _)] at first

/-- The last character of a part in lowercase comes from its last character. -/
theorem getLast?_lowerWithin {before text after : List Char} {d : Char}
    (last : d ∈ (lowerWithin before text after).getLast?) :
    ∃ c ∈ text.getLast?, isMark d = isMark c := by
  rcases List.eq_nil_or_concat' text with rfl | ⟨init, c, rfl⟩
  · cases last
  · refine ⟨c, List.getLast?_concat, ?_⟩
    rw [lowerWithin_append, lowerWithin_cons, lowerWithin_nil, List.append_nil,
      List.getLast?_append_of_ne_nil _ (lowerBetween_ne_nil _ _ _)] at last
    exact isMark_of_mem_lowerBetween (List.mem_of_getLast? last)

/-! ## Walls -/

/-- Whether a character ends the search for a cased letter without being one. -/
def isWall (c : Char) : Bool := !isCaseIgnorable c && !isCased c

theorem isWall_of_isMark {c : Char} (mark : isMark c = true) (notColon : c ≠ ':') :
    isWall c = true := by
  obtain ⟨_, _, ignorable, cased⟩ := not_holds_of_isMark mark notColon
  simp [isWall, isCaseIgnorable, isCased, ignorable, cased]

theorem ne_colon_of_isBlank {c : Char} (blank : isBlank c = true) : c ≠ ':' := by
  rintro rfl
  exact absurd blank (by decide)

/-- The search goes on behind a text only if it can skip all of it. -/
theorem meetsCased_append (first second : List Char) :
    meetsCased (first ++ second) =
      if first.all isCaseIgnorable then meetsCased second else meetsCased first := by
  induction first with
  | nil => rfl
  | cons c rest induction =>
      cases skipped : isCaseIgnorable c with
      | true => simpa [meetsCased, skipped] using induction
      | false => simp [meetsCased, skipped]

theorem meetsCased_of_ignorable {text : List Char} (skipped : text.all isCaseIgnorable = true) :
    meetsCased text = false := by
  have none : text.dropWhile isCaseIgnorable = [] :=
    List.dropWhile_eq_nil_iff.mpr (List.all_eq_true.mp skipped)
  rw [meetsCased, none]

theorem meetsCased_append_wall {wall : Char} (stops : isWall wall = true) (text after : List Char) :
    meetsCased (text ++ wall :: after) = meetsCased text := by
  obtain ⟨kept, uncased⟩ : isCaseIgnorable wall = false ∧ isCased wall = false := by
    simpa [isWall] using stops
  rw [meetsCased_append]
  split
  next skipped =>
    rw [meetsCased_of_ignorable skipped, meetsCased, List.dropWhile_cons_of_neg (by simp [kept])]
    exact uncased
  next => rfl

theorem lowerWithin_wall {wall : Char} (stops : isWall wall = true) (after : List Char) :
    ∀ before text : List Char, lowerWithin before text (wall :: after) = lowerAfter before text
  | _, [] => rfl
  | before, c :: rest => by
      rw [lowerWithin_cons, lowerWithin_wall stops after, lowerAfter_cons, lowerBetween,
        lowerBetween, endsWord, endsWord, meetsCased_append_wall stops]

theorem lowerAfter_wall {wall : Char} (stops : isWall wall = true) (further : List Char) :
    ∀ before text : List Char,
      lowerAfter (before ++ wall :: further) text = lowerAfter before text
  | _, [] => rfl
  | before, c :: rest => by
      rw [lowerAfter_cons, ← List.cons_append, lowerAfter_wall stops further, lowerAfter_cons,
        lowerBetween, lowerBetween, endsWord, endsWord, meetsCased_append_wall stops]

/-- On either side of a blank or a semicolon a text is lowercased on its own. -/
theorem lowercase_append_mark {wall : Char} (mark : isMark wall = true) (notColon : wall ≠ ':')
    (first second : List Char) :
    lowercase (first ++ wall :: second) = lowercase first ++ wall :: lowercase second := by
  have stops := isWall_of_isMark mark notColon
  have alone := lowerAfter_wall stops first.reverse [] second
  rw [List.nil_append] at alone
  rw [lowercase, lowerAfter_append, lowerWithin_wall stops, List.append_nil, lowerAfter_cons,
    lowerBetween_of_isMark mark, alone]
  rfl

theorem lowercase_gap_append {gap : List Char} (blank : IsGap gap) (text : List Char) :
    lowercase (gap ++ text) = gap ++ lowercase text := by
  induction gap with
  | nil => rfl
  | cons c rest induction =>
      obtain ⟨first, others⟩ := List.forall_mem_cons.mp blank
      have wall := lowercase_append_mark (isMark_of_isBlank first) (ne_colon_of_isBlank first) []
        (rest ++ text)
      rw [induction others] at wall
      exact wall

theorem lowercase_append_gap {gap : List Char} (blank : IsGap gap) (text : List Char) :
    lowercase (text ++ gap) = lowercase text ++ gap := by
  cases gap with
  | nil => rw [List.append_nil, List.append_nil]
  | cons c rest =>
      obtain ⟨first, others⟩ := List.forall_mem_cons.mp blank
      have alone := lowercase_gap_append others []
      rw [List.append_nil] at alone
      rw [lowercase_append_mark (isMark_of_isBlank first) (ne_colon_of_isBlank first), alone]
      exact congrArg (lowercase text ++ c :: ·) (List.append_nil rest)

/-! ## Comments -/

theorem takeWhile_eq_of_not_mem {text : List Char} (absent : ';' ∉ text) :
    text.takeWhile (· ≠ ';') = text := by
  rw [List.takeWhile_eq_self_iff]
  rintro c member
  simpa using ne_of_mem_of_not_mem member absent

theorem takeWhile_append_semicolon {text : List Char} (absent : ';' ∉ text) (comment : List Char) :
    (text ++ ';' :: comment).takeWhile (· ≠ ';') = text := by
  rw [List.takeWhile_append, takeWhile_eq_of_not_mem absent]
  simp

/-- The text before the first semicolon is lowercased on its own. -/
theorem takeWhile_lowercase (text : List Char) :
    (lowercase text).takeWhile (· ≠ ';') = lowercase (text.takeWhile (· ≠ ';')) := by
  have kept {before : List Char} (absent : ';' ∉ before) : ';' ∉ lowercase before := fun member =>
    absent (mem_of_mem_lowercase (by decide) member)
  by_cases member : ';' ∈ text
  · obtain ⟨before, after, rfl, absent⟩ := List.eq_append_cons_of_mem member
    rw [lowercase_append_mark (by decide) (by decide), takeWhile_append_semicolon absent,
      takeWhile_append_semicolon (kept absent)]
  · rw [takeWhile_eq_of_not_mem member, takeWhile_eq_of_not_mem (kept member)]

/-! ## Words in lowercase -/

/-- A text without a capital sigma and its lowercase form are divided at the same marks. -/
theorem splitOnP_flatMap_lowerChar {marks : Char → Bool}
    (known : ∀ c, marks c = true → isMark c = true) :
    ∀ text : List Char, (text.flatMap lowerChar).splitOnP marks =
      (text.splitOnP marks).map (List.flatMap lowerChar)
  | [] => rfl
  | c :: rest => by
      have later := splitOnP_flatMap_lowerChar known rest
      rw [List.flatMap_cons, List.splitOnP_cons_eq_if_modifyHead]
      cases mark : marks c with
      | true =>
          rw [isSmall_iff.mp (isSmall_of_isMark (known c mark)), List.singleton_append,
            List.splitOnP_cons_eq_if_modifyHead, if_pos mark, later]
          rfl
      | false =>
          have plain : ∀ d ∈ lowerChar c, marks d = false := by
            intro d member
            rw [Bool.eq_false_iff]
            intro alsoMark
            have source := known d alsoMark
            rw [isMark_of_mem_lowerChar member] at source
            rw [isSmall_iff.mp (isSmall_of_isMark source), List.mem_singleton] at member
            rw [member, mark] at alsoMark
            cases alsoMark
          obtain ⟨head, others, split⟩ :=
            List.exists_cons_of_ne_nil (List.splitOnP_ne_nil marks rest)
          rw [splitOnP_append, List.splitOnP_eq_singleton plain, later, split]
          rfl

theorem words_flatMap_lowerChar (text : List Char) :
    words (text.flatMap lowerChar) = (words text).map (List.flatMap lowerChar) := by
  rw [words, splitOnP_flatMap_lowerChar fun c => isMark_of_isBlank, List.filter_map, words]
  congr 1
  apply List.filter_congr
  intro word _
  cases word with
  | nil => rfl
  | cons c rest => simp [lowerChar_ne_nil]

end Ram.Text
