import Ram.Text.Blank
import Mathlib.Data.List.DropRight

/-!
# Trimming and splitting texts

Facts about the two ways in which a text is taken apart.  Trimming changes nothing when
neither end of a text is blank.  Splitting at a character gives pieces that do not hold it,
and the blanks at the front of a piece do not matter once the pieces are trimmed.  The words
of a text are those before a blank and those after it.

A *gap* holds nothing but blanks.  A text is what trimming leaves of it between two gaps
(`exists_gaps`), and no gap changes the words of a text (`words_trim`).  Two texts in a row have
the words of the one and those of the other, if they *meet* at a blank (`words_append`).
-/

namespace Ram.Text

/-! ## Trimming -/

theorem trimEnd_eq_rdropWhile (text : List Char) : trimEnd text = text.rdropWhile isBlank := rfl

/-- A text in which neither the first nor the last character is blank stays as it is. -/
theorem trim_eq_self {text : List Char} (first : ∀ c ∈ text.head?, isBlank c = false)
    (last : ∀ c ∈ text.getLast?, isBlank c = false) : trim text = text := by
  have start : trimStart text = text := by
    cases text with
    | nil => rfl
    | cons c rest => exact List.dropWhile_cons_of_neg (by simp [first c rfl])
  rw [trim, start, trimEnd_eq_rdropWhile, List.rdropWhile_eq_self_iff]
  intro nonempty
  simp [last _ (List.getLast?_eq_getLast_of_ne_nil nonempty)]

theorem trim_of_no_blank {text : List Char} (solid : ∀ c ∈ text, isBlank c = false) :
    trim text = text :=
  trim_eq_self (fun c head => solid c (List.mem_of_mem_head? head))
    (fun c last => solid c (List.mem_of_getLast? last))

@[simp] theorem trim_cons_blank {c : Char} (blank : isBlank c = true) (text : List Char) :
    trim (c :: text) = trim text := by
  rw [trim, trim, trimStart, List.dropWhile_cons_of_pos blank, ← trimStart]

theorem mem_of_mem_trim {text : List Char} {c : Char} (member : c ∈ trim text) : c ∈ text := by
  rw [trim, trimEnd_eq_rdropWhile] at member
  exact (List.dropWhile_sublist isBlank).subset ((List.rdropWhile_prefix isBlank _).subset member)

/-! ## Splitting -/

/-- A piece of a text holds only characters of the text, and none that it was split at. -/
theorem mem_of_mem_splitOnP {marks : Char → Bool} :
    ∀ {text piece : List Char}, piece ∈ text.splitOnP marks →
      ∀ c ∈ piece, c ∈ text ∧ marks c = false
  | [], piece, member, c, inside => by
      simp only [List.splitOnP_nil, List.mem_singleton] at member
      simp [member] at inside
  | first :: rest, piece, member, c, inside => by
      rw [List.splitOnP_cons_eq_if_modifyHead] at member
      split at member
      next atMark =>
        rcases List.mem_cons.mp member with empty | later
        · simp [empty] at inside
        · obtain ⟨known, different⟩ := mem_of_mem_splitOnP later c inside
          exact ⟨.tail first known, different⟩
      next notMark =>
        obtain ⟨head, others, split⟩ := List.exists_cons_of_ne_nil (List.splitOnP_ne_nil marks rest)
        rw [split, List.modifyHead_cons] at member
        rcases List.mem_cons.mp member with longer | later
        · rw [longer] at inside
          rcases List.mem_cons.mp inside with same | inHead
          · subst same
            exact ⟨.head _, by simpa using notMark⟩
          · obtain ⟨known, different⟩ :=
              mem_of_mem_splitOnP (split ▸ List.mem_cons_self) c inHead
            exact ⟨.tail first known, different⟩
        · obtain ⟨known, different⟩ :=
            mem_of_mem_splitOnP (split ▸ List.mem_cons_of_mem head later) c inside
          exact ⟨.tail first known, different⟩

theorem mem_of_mem_splitOn {mark : Char} {text piece : List Char}
    (member : piece ∈ text.splitOn mark) : ∀ c ∈ piece, c ∈ text ∧ c ≠ mark := by
  intro c inside
  rw [List.splitOn_eq_splitOnP] at member
  obtain ⟨known, different⟩ := mem_of_mem_splitOnP member c inside
  exact ⟨known, by simpa using different⟩

/-- A blank at the front of a text is trimmed off its first piece. -/
theorem map_trim_splitOn_cons {mark c : Char} (blank : isBlank c = true) (other : c ≠ mark)
    (text : List Char) :
    ((c :: text).splitOn mark).map trim = (text.splitOn mark).map trim := by
  rw [List.splitOn_cons_eq_if_modifyHead, if_neg (by simpa using other)]
  cases text.splitOn mark with
  | nil => rfl
  | cons head others => simp [trim_cons_blank blank]

/-! ## Words -/

theorem mem_of_mem_words {text word : List Char} (member : word ∈ words text) :
    ∀ c ∈ word, c ∈ text := by
  intro c inside
  exact (mem_of_mem_splitOnP (List.mem_of_mem_filter member) c inside).1

theorem words_append_blank {c : Char} (blank : isBlank c = true) (before after : List Char) :
    words (before ++ c :: after) = words before ++ words after := by
  rw [words, List.splitOnP_append_cons before after blank, List.filter_append]
  rfl

theorem words_of_no_blank {text : List Char} (nonempty : text ≠ [])
    (solid : ∀ c ∈ text, isBlank c = false) : words text = [text] := by
  rw [words, List.splitOnP_eq_singleton solid]
  simp [nonempty]

/-! ## Gaps -/

/-- Whether a text is a gap: it holds nothing but blanks. -/
def IsGap (text : List Char) : Prop := ∀ c ∈ text, isBlank c = true

instance (text : List Char) : Decidable (IsGap text) :=
  decidable_of_iff (text.all isBlank = true) List.all_eq_true

theorem trimStart_append_gap {gap : List Char} (blank : IsGap gap) (text : List Char) :
    trimStart (gap ++ text) = trimStart text :=
  List.dropWhile_append_of_pos blank

theorem trimEnd_append_gap {gap : List Char} (blank : IsGap gap) (text : List Char) :
    trimEnd (text ++ gap) = trimEnd text := by
  have reversed : ∀ c ∈ gap.reverse, isBlank c = true := fun c member =>
    blank c (List.mem_reverse.mp member)
  rw [trimEnd, List.reverse_append, List.dropWhile_append_of_pos reversed, trimEnd]

/-- A text is what trimming leaves of it between two gaps. -/
theorem exists_gaps (text : List Char) :
    ∃ front back, IsGap front ∧ IsGap back ∧ text = front ++ trim text ++ back := by
  refine ⟨text.takeWhile isBlank, (trimStart text).rtakeWhile isBlank, ?_, ?_, ?_⟩
  · exact fun c member => List.mem_takeWhile_imp member
  · exact fun c member => List.mem_rtakeWhile_imp member
  · rw [trim, trimEnd_eq_rdropWhile, List.append_assoc, List.rdropWhile_append_rtakeWhile,
      trimStart, List.takeWhile_append_dropWhile]

theorem IsGap.trimStart {gap : List Char} (blank : IsGap gap) : trimStart gap = [] := by
  rw [Text.trimStart, List.dropWhile_eq_nil_iff]
  exact blank

/-- Gaps around a text are trimmed off. -/
theorem trim_gaps {front back : List Char} (frontBlank : IsGap front) (backBlank : IsGap back)
    (text : List Char) : trim (front ++ text ++ back) = trim text := by
  rw [trim, trim, List.append_assoc, trimStart_append_gap frontBlank]
  by_cases empty : trimStart text = []
  · have only : trimStart (text ++ back) = [] := by
      rw [trimStart] at empty
      rw [trimStart, List.dropWhile_append, empty]
      exact backBlank.trimStart
    rw [only, empty]
  · have kept : trimStart (text ++ back) = trimStart text ++ back := by
      rw [trimStart] at empty
      rw [trimStart, List.dropWhile_append, if_neg (by simpa using empty)]
      rfl
    rw [kept, trimEnd_append_gap backBlank]

theorem trim_trim (text : List Char) : trim (trim text) = trim text := by
  obtain ⟨front, back, frontBlank, backBlank, same⟩ := exists_gaps text
  conv_rhs => rw [same, trim_gaps frontBlank backBlank]

theorem length_trim_le (text : List Char) : (trim text).length ≤ text.length := by
  obtain ⟨front, back, _, _, same⟩ := exists_gaps text
  have := congrArg List.length same
  simp only [List.length_append] at this
  omega

/-- A trimmed text starts with a character that is not blank. -/
theorem head?_trim {text : List Char} {c : Char} (first : c ∈ (trim text).head?) :
    isBlank c = false := by
  obtain ⟨rest, split⟩ := List.head?_eq_some_iff.mp first
  rw [Bool.eq_false_iff]
  intro blank
  have shorter := trim_trim text
  rw [split, trim_cons_blank blank] at shorter
  have := length_trim_le rest
  rw [shorter, List.length_cons] at this
  omega

/-- A trimmed text ends with a character that is not blank. -/
theorem getLast?_trim {text : List Char} {c : Char} (last : c ∈ (trim text).getLast?) :
    isBlank c = false := by
  obtain ⟨init, split⟩ := List.getLast?_eq_some_iff.mp last
  rw [Bool.eq_false_iff]
  intro blank
  have gap : IsGap [c] := by simpa [IsGap] using blank
  have shorter := trim_trim text
  rw [split, ← List.nil_append init, trim_gaps (by simp [IsGap]) gap] at shorter
  have := length_trim_le init
  rw [shorter, List.length_append, List.nil_append, List.length_singleton] at this
  omega

/-! ## Two texts in a row -/

/-- Whether one of two characters that meet is a mark. -/
def MeetAt (marks : Char → Bool) (first second : List Char) : Prop :=
  ∀ c ∈ first.getLast?, ∀ d ∈ second.head?, marks c = true ∨ marks d = true

instance (marks : Char → Bool) (first second : List Char) :
    Decidable (MeetAt marks first second) :=
  decidable_of_iff
    ((first.getLast?.all fun c => second.head?.all fun d => marks c || marks d) = true)
    (by rw [MeetAt]; cases first.getLast? <;> cases second.head? <;> simp)

theorem splitOnP_append {marks : Char → Bool} (second : List Char) :
    ∀ first : List Char, (first ++ second).splitOnP marks =
      (first.splitOnP marks).dropLast ++
        ((first.splitOnP marks).getLastD [] ++ (second.splitOnP marks).headD []) ::
          (second.splitOnP marks).tail
  | [] => by
      obtain ⟨head, others, split⟩ :=
        List.exists_cons_of_ne_nil (List.splitOnP_ne_nil marks second)
      simp [split]
  | c :: first => by
      obtain ⟨head, others, split⟩ := List.exists_cons_of_ne_nil (List.splitOnP_ne_nil marks first)
      rw [List.cons_append, List.splitOnP_cons_eq_if_modifyHead, splitOnP_append second first,
        List.splitOnP_cons_eq_if_modifyHead, split]
      split
      next => simp
      next =>
        cases others with
        | nil => simp
        | cons next rest => simp

/-- Where two texts meet, the last piece of the one and the first piece of the other are joined. -/
theorem splitOn_append (mark : Char) (first second : List Char) :
    (first ++ second).splitOn mark =
      (first.splitOn mark).dropLast ++
        ((first.splitOn mark).getLastD [] ++ (second.splitOn mark).headD []) ::
          (second.splitOn mark).tail := by
  simp only [List.splitOn_eq_splitOnP, splitOnP_append]

theorem getLast?_of_lastPiece {mark c : Char} {text : List Char}
    (last : c ∈ ((text.splitOn mark).getLastD []).getLast?) : c ∈ text.getLast? := by
  by_cases member : mark ∈ text
  · obtain ⟨after, before, same, absent⟩ :=
      List.eq_append_cons_of_mem (List.mem_reverse.mpr member)
    have split : text = before.reverse ++ mark :: after.reverse := by
      simpa using congrArg List.reverse same
    have alone : after.reverse.splitOn mark = [after.reverse] :=
      List.splitOn_eq_singleton (by simpa using absent)
    have piece : (text.splitOn mark).getLastD [] = after.reverse := by
      rw [split, List.splitOn_append_cons_self, alone]
      simp
    rw [piece] at last
    rw [split, List.getLast?_append, List.getLast?_cons, Option.mem_def.mp last]
    rfl
  · rwa [List.splitOn_eq_singleton member] at last

theorem head?_of_firstPiece {mark c : Char} {text : List Char}
    (first : c ∈ ((text.splitOn mark).headD []).head?) : c ∈ text.head? := by
  by_cases member : mark ∈ text
  · obtain ⟨before, after, rfl, absent⟩ := List.eq_append_cons_of_mem member
    rw [List.splitOn_append_cons_self_of_not_mem absent, List.headD_cons] at first
    rw [List.head?_append, Option.mem_def.mp first]
    rfl
  · rwa [List.splitOn_eq_singleton member] at first

/-- A piece of a text stands between two marks, or at the front. -/
theorem mem_dropLast_splitOn {mark : Char} {front piece : List Char}
    (start : front = [] ∨ front.getLast? = some mark) (whole : mark ∉ piece) (back : List Char) :
    piece ∈ ((front ++ piece ++ mark :: back).splitOn mark).dropLast := by
  have split : (piece ++ mark :: back).splitOn mark = piece :: back.splitOn mark :=
    List.splitOn_append_cons_self_of_not_mem whole back
  have first : piece ∈ (piece :: back.splitOn mark).dropLast := by
    rw [List.dropLast_cons_of_ne_nil (List.splitOn_ne_nil mark back)]
    exact .head _
  rw [List.append_assoc]
  rcases start with rfl | ends
  · rwa [List.nil_append, split]
  · obtain ⟨init, rfl⟩ := List.getLast?_eq_some_iff.mp ends
    rw [List.append_assoc, List.singleton_append, List.splitOn_append_cons_self, split,
      List.dropLast_append_of_ne_nil (List.cons_ne_nil _ _)]
    exact List.mem_append_right _ first

/-- Gaps around a text are trimmed off its pieces. -/
theorem map_trim_splitOn_trim {mark : Char} (visible : isBlank mark = false) (text : List Char) :
    ((trim text).splitOn mark).map trim = (text.splitOn mark).map trim := by
  have other (c : Char) (blank : isBlank c = true) : c ≠ mark := by
    rintro rfl
    rw [visible] at blank
    cases blank
  obtain ⟨front, back, frontBlank, backBlank, same⟩ := exists_gaps text
  have behind : ((trim text ++ back).splitOn mark).map trim =
      ((trim text).splitOn mark).map trim := by
    have absent : mark ∉ back := fun member => other mark (backBlank _ member) rfl
    have last : trim (((trim text).splitOn mark).getLastD [] ++ back) =
        trim (((trim text).splitOn mark).getLastD []) := by
      simpa using trim_gaps (show IsGap [] by simp [IsGap]) backBlank _
    have whole := List.dropLast_concat_getLast (List.splitOn_ne_nil mark (trim text))
    rw [splitOn_append, List.splitOn_eq_singleton absent, List.headD_cons, List.tail_cons,
      List.map_append, List.map_singleton, last]
    conv_rhs => rw [← whole, List.map_append, List.map_singleton]
    rw [List.getLastD_eq_getLast?, List.getLast?_eq_some_getLast (List.splitOn_ne_nil mark _),
      Option.getD_some]
  conv_rhs => rw [same, List.append_assoc]
  rw [← behind]
  clear same
  induction front with
  | nil => rfl
  | cons c rest induction =>
      obtain ⟨first, others⟩ := List.forall_mem_cons.mp frontBlank
      rw [List.cons_append, map_trim_splitOn_cons first (other c first), induction others]

/-! ## Words and gaps -/

theorem words_cons_blank {c : Char} (blank : isBlank c = true) (text : List Char) :
    words (c :: text) = words text := by
  simpa using words_append_blank blank [] text

/-- The words of two texts that meet at a blank, or at an end. -/
theorem words_append {first second : List Char} (meet : MeetAt isBlank first second) :
    words (first ++ second) = words first ++ words second := by
  rcases List.eq_nil_or_concat' first with rfl | ⟨init, c, rfl⟩
  · rfl
  · cases second with
    | nil => simp
    | cons d rest =>
        rcases meet c (by simp) d (by simp) with blank | blank
        · rw [List.append_assoc, List.singleton_append, words_append_blank blank,
            words_append_blank blank, words_nil, List.append_nil]
        · rw [words_append_blank blank, words_cons_blank blank]

theorem IsGap.words {gap : List Char} (blank : IsGap gap) : words gap = [] := by
  induction gap with
  | nil => rfl
  | cons c gap induction =>
      obtain ⟨first, rest⟩ := List.forall_mem_cons.mp blank
      rw [words_cons_blank first, induction rest]

theorem words_gap_append {gap : List Char} (blank : IsGap gap) (text : List Char) :
    words (gap ++ text) = words text := by
  rw [words_append fun c last _ _ => .inl (blank c (List.mem_of_getLast? last)), blank.words,
    List.nil_append]

theorem words_append_gap {gap : List Char} (blank : IsGap gap) (text : List Char) :
    words (text ++ gap) = words text := by
  rw [words_append fun _ _ d first => .inr (blank d (List.mem_of_head? first)), blank.words,
    List.append_nil]

theorem words_trim (text : List Char) : words (trim text) = words text := by
  obtain ⟨front, back, frontBlank, backBlank, same⟩ := exists_gaps text
  conv_rhs => rw [same, words_append_gap backBlank, words_gap_append frontBlank]

theorem words_eq_nil_iff : ∀ {text : List Char}, words text = [] ↔ IsGap text
  | [] => by simp [IsGap]
  | c :: rest => by
      cases blank : isBlank c with
      | true =>
          rw [words_cons_blank blank, words_eq_nil_iff]
          exact ⟨fun gap => List.forall_mem_cons.mpr ⟨blank, gap⟩,
            fun gap => (List.forall_mem_cons.mp gap).2⟩
      | false =>
          obtain ⟨head, others, split⟩ :=
            List.exists_cons_of_ne_nil (List.splitOnP_ne_nil isBlank rest)
          constructor
          · intro none
            simp [words, List.splitOnP_cons_eq_if_modifyHead, blank, split] at none
          · intro gap
            rw [gap c (.head _)] at blank
            cases blank

theorem trim_eq_nil_iff {text : List Char} : trim text = [] ↔ words text = [] := by
  constructor
  · intro empty
    rw [← words_trim, empty, words_nil]
  · intro none
    have gap := words_eq_nil_iff.mp none
    rw [trim, gap.trimStart]
    rfl

/-- A text of one word is that word between gaps. -/
theorem trim_eq_of_words {text word : List Char} (single : words text = [word]) :
    trim text = word := by
  have solid : ∀ c ∈ trim text, isBlank c = false := by
    intro b inside
    rw [Bool.eq_false_iff]
    intro blank
    -- a blank inside has a word on either side
    obtain ⟨before, after, same⟩ := List.append_of_mem inside
    have front : words before ≠ [] := by
      intro none
      cases before with
      | nil =>
          have first : b ∈ (trim text).head? := by simp [same]
          exact absurd (head?_trim first) (by simp [blank])
      | cons c rest =>
          have first : c ∈ (trim text).head? := by simp [same]
          have firstBlank := words_eq_nil_iff.mp none c (.head _)
          exact absurd (head?_trim first) (by simp [firstBlank])
    have back : words after ≠ [] := by
      intro none
      rcases List.eq_nil_or_concat' after with rfl | ⟨init, c, rfl⟩
      · have last : b ∈ (trim text).getLast? := by simp [same]
        exact absurd (getLast?_trim last) (by simp [blank])
      · have last : c ∈ (trim text).getLast? := by
          rw [same, ← List.cons_append, ← List.append_assoc]
          exact List.getLast?_concat
        have lastBlank := words_eq_nil_iff.mp none c (by simp)
        exact absurd (getLast?_trim last) (by simp [lastBlank])
    have parts : words before ++ words after = [word] := by
      rw [← words_append_blank blank, ← same, words_trim, single]
    rcases List.append_eq_singleton_iff.mp parts with ⟨none, _⟩ | ⟨_, none⟩
    · exact front none
    · exact back none
  have nonempty : trim text ≠ [] := by
    rw [Ne, trim_eq_nil_iff, single]
    exact List.cons_ne_nil _ _
  have alone := words_of_no_blank nonempty solid
  rw [words_trim, single] at alone
  exact (List.cons.inj alone).1.symm

end Ram.Text
