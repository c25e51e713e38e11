/-!
# Checks made one after another

Both directions of the image and the second part of assembly go through a list, member by
member, count positions on the way and stop at the first failure.  `inOrder` is that walk for
an arbitrary check.  It succeeds with the results of all checks (`inOrder_eq_ok_iff`) or
fails with the error of the first check that fails (`inOrder_eq_error_iff`).

The file starts with what the success and the failure of computations in a row say about each
of them.
-/

namespace Ram

variable {ε ε' α β γ : Type}

/-! ## Computations that fail -/

theorem bind_eq_ok_iff {first : Except ε α} {next : α → Except ε β} {result : β} :
    first >>= next = .ok result ↔ ∃ value, first = .ok value ∧ next value = .ok result := by
  cases first with
  | error error =>
      constructor
      · intro success
        cases success
      · rintro ⟨value, success, _⟩
        cases success
  | ok value =>
      constructor
      · intro success
        exact ⟨value, rfl, success⟩
      · rintro ⟨_, same, success⟩
        cases same
        exact success

theorem bind_eq_error_iff {first : Except ε α} {next : α → Except ε β} {error : ε} :
    first >>= next = .error error ↔
      first = .error error ∨ ∃ value, first = .ok value ∧ next value = .error error := by
  cases first with
  | error inner =>
      constructor
      · intro failure
        cases failure
        exact .inl rfl
      · rintro (failure | ⟨_, success, _⟩)
        · cases failure
          rfl
        · cases success
  | ok value =>
      constructor
      · intro failure
        exact .inr ⟨value, rfl, failure⟩
      · rintro (failure | ⟨_, same, failure⟩)
        · cases failure
        · cases same
          exact failure

@[simp] theorem mapError_eq_ok_iff {result : Except ε α} {reword : ε → ε'} {value : α} :
    result.mapError reword = .ok value ↔ result = .ok value := by
  cases result with
  | error error =>
      show Except.error (reword error) = .ok value ↔ Except.error error = .ok value
      simp
  | ok inner =>
      show Except.ok inner = .ok value ↔ Except.ok inner = .ok value
      simp

@[simp] theorem mapError_eq_error_iff {result : Except ε α} {reword : ε → ε'} {error : ε'} :
    result.mapError reword = .error error ↔
      ∃ inner, result = .error inner ∧ reword inner = error := by
  cases result with
  | error inner =>
      show Except.error (reword inner) = .error error ↔ _
      simp
  | ok value =>
      show Except.ok value = .error error ↔ _
      simp

theorem exists_ok_iff {result : Except ε α} :
    (∃ value, result = .ok value) ↔ ∀ error, result ≠ .error error := by
  cases result with
  | error error => simp
  | ok value => simp

theorem exists_error_iff {result : Except ε α} :
    (∃ error, result = .error error) ↔ ¬ ∃ value, result = .ok value := by
  cases result with
  | error error => simp
  | ok value => simp

/-- Steps in a row fail exactly when one of them fails where those before it have led. -/
theorem foldlM_eq_error_iff {step : α → β → Except ε α} {error : ε} :
    ∀ {list : List β} {start : α},
      list.foldlM step start = .error error ↔
        ∃ before element after state, list = before ++ element :: after ∧
          before.foldlM step start = .ok state ∧ step state element = .error error
  | [], start => by
      constructor
      · intro failed
        cases failed
      · rintro ⟨before, element, after, state, split, _⟩
        simp at split
  | first :: rest, start => by
      rw [List.foldlM_cons, bind_eq_error_iff]
      constructor
      · rintro (failed | ⟨next, stepped, failed⟩)
        · exact ⟨[], first, rest, start, rfl, rfl, failed⟩
        · obtain ⟨before, element, after, state, rfl, led, failed⟩ :=
            foldlM_eq_error_iff.mp failed
          refine ⟨first :: before, element, after, state, rfl, ?_, failed⟩
          rw [List.foldlM_cons, bind_eq_ok_iff]
          exact ⟨next, stepped, led⟩
      · rintro ⟨before, element, after, state, split, led, failed⟩
        cases before with
        | nil =>
            cases split
            cases led
            exact .inl failed
        | cons other before =>
            cases split
            rw [List.foldlM_cons, bind_eq_ok_iff] at led
            obtain ⟨next, stepped, led⟩ := led
            have later := foldlM_eq_error_iff.mpr ⟨before, element, after, state, rfl, led, failed⟩
            exact .inr ⟨next, stepped, later⟩

/-! ## Going through a list -/

/-- The results of a check on the members of a list, the first of which has the given
position, or the first error. -/
def inOrder (check : Nat → α → Except ε β) (position : Nat) : List α → Except ε (List β)
  | [] => .ok []
  | first :: rest => do
    let result ← check position first
    let results ← inOrder check (position + 1) rest
    return result :: results

/-- A walk over changed elements is a walk with another check. -/
theorem inOrder_map {check : Nat → β → Except ε γ} {change : α → β} :
    ∀ (list : List α) (position : Nat),
      inOrder check position (list.map change) =
        inOrder (fun place element => check place (change element)) position list
  | [], _ => rfl
  | first :: rest, position => by
      simp only [List.map_cons, inOrder, inOrder_map rest]

theorem inOrder_cons_eq_ok_iff {check : Nat → α → Except ε β} {position : Nat} {first : α}
    {rest : List α} {results : List β} :
    inOrder check position (first :: rest) = .ok results ↔
      ∃ result others, check position first = .ok result ∧
        inOrder check (position + 1) rest = .ok others ∧ results = result :: others := by
  rw [inOrder, bind_eq_ok_iff]
  constructor
  · rintro ⟨result, checked, walked⟩
    obtain ⟨others, restWalked, same⟩ := bind_eq_ok_iff.mp walked
    cases same
    exact ⟨result, others, checked, restWalked, rfl⟩
  · rintro ⟨result, others, checked, restWalked, rfl⟩
    exact ⟨result, checked, bind_eq_ok_iff.mpr ⟨others, restWalked, rfl⟩⟩

/-- A walk over two lists in a row is a walk over the one and then over the other. -/
theorem inOrder_append_eq_ok_iff {check : Nat → α → Except ε β} {second : List α} :
    ∀ {first : List α} {position : Nat} {results : List β},
      inOrder check position (first ++ second) = .ok results ↔
        ∃ before after, inOrder check position first = .ok before ∧
          inOrder check (position + first.length) second = .ok after ∧ results = before ++ after
  | [], position, results => by simp [inOrder]
  | element :: first, position, results => by
      simp only [List.cons_append, inOrder_cons_eq_ok_iff, inOrder_append_eq_ok_iff,
        List.length_cons, Nat.add_assoc, Nat.add_comm 1]
      constructor
      · rintro ⟨result, _, checked, ⟨before, after, walked, alsoWalked, rfl⟩, rfl⟩
        exact ⟨result :: before, after, ⟨result, before, checked, walked, rfl⟩, alsoWalked, rfl⟩
      · rintro ⟨_, after, ⟨result, before, checked, walked, rfl⟩, alsoWalked, rfl⟩
        exact ⟨result, before ++ after, checked, ⟨before, after, walked, alsoWalked, rfl⟩, rfl⟩

/-- After a walk that succeeds, one more element is checked at its place. -/
theorem inOrder_concat {check : Nat → α → Except ε β} (last : α) :
    ∀ {list : List α} {position : Nat} {results : List β},
      inOrder check position list = .ok results →
        inOrder check position (list ++ [last]) =
          (check (position + list.length) last).map fun result => results ++ [result]
  | [], position, results, walked => by
      cases walked
      show (check position last >>= fun result => _) = (check position last).map _
      cases check position last <;> rfl
  | first :: rest, position, results, walked => by
      obtain ⟨result, others, checked, later, rfl⟩ := inOrder_cons_eq_ok_iff.mp walked
      rw [List.cons_append, inOrder, checked, List.length_cons, Nat.add_comm rest.length,
        ← Nat.add_assoc]
      show (inOrder check (position + 1) (rest ++ [last]) >>= fun results => _) = _
      rw [inOrder_concat last later]
      cases check (position + 1 + rest.length) last <;> rfl

/-- A walk succeeds exactly with the results of the checks, place by place. -/
theorem inOrder_eq_ok_iff {check : Nat → α → Except ε β} :
    ∀ {list : List α} {position : Nat} {results : List β},
      inOrder check position list = .ok results ↔
        ∀ index, list[index]?.map (check (position + index)) = results[index]?.map .ok
  | [], position, results => by
      constructor
      · intro success
        cases success
        simp
      · intro agree
        cases results with
        | nil => rfl
        | cons result others =>
            have := agree 0
            simp at this
  | first :: rest, position, results => by
      rw [inOrder_cons_eq_ok_iff]
      constructor
      · rintro ⟨result, others, checked, walked, rfl⟩ index
        cases index with
        | zero => simp [checked]
        | succ index =>
            have later := inOrder_eq_ok_iff.mp walked index
            simpa [Nat.add_assoc, Nat.add_comm 1 index] using later
      · intro agree
        cases results with
        | nil =>
            have := agree 0
            simp at this
        | cons result others =>
            refine ⟨result, others, ?_, ?_, rfl⟩
            · simpa using agree 0
            · apply inOrder_eq_ok_iff.mpr
              intro index
              simpa [Nat.add_assoc, Nat.add_comm 1 index] using agree (index + 1)

/-- A walk depends on its elements only through what the checks see of them. -/
theorem inOrder_congr {check : Nat → α → Except ε β} {view : α → γ}
    (seen : ∀ place first second, view first = view second →
      check place first = check place second) :
    ∀ {list other : List α} {position : Nat}, list.map view = other.map view →
      inOrder check position list = inOrder check position other
  | [], [], _, _ => rfl
  | [], _ :: _, _, same => by cases same
  | _ :: _, [], _, same => by cases same
  | first :: rest, second :: others, position, same => by
      obtain ⟨head, tail⟩ := List.cons.inj same
      rw [inOrder, inOrder, seen position first second head, inOrder_congr seen tail]

/-- A walk succeeds with changed results where each of its checks does so. -/
theorem inOrder_map_results {check : Nat → α → Except ε β} {other : Nat → α → Except ε' γ}
    {change : β → γ} {list : List α} {position start : Nat} {results : List β}
    (walked : inOrder check position list = .ok results)
    (changes : ∀ index element result, list[index]? = some element →
      check (position + index) element = .ok result →
        other (start + index) element = .ok (change result)) :
    inOrder other start list = .ok (results.map change) := by
  rw [inOrder_eq_ok_iff] at walked ⊢
  intro index
  have agree := walked index
  rw [List.getElem?_map]
  cases found : list[index]? with
  | none =>
      rw [found, Option.map_none, eq_comm, Option.map_eq_none_iff] at agree
      rw [agree]
      rfl
  | some element =>
      rw [found, Option.map_some, eq_comm, Option.map_eq_some_iff] at agree
      obtain ⟨result, there, checked⟩ := agree
      rw [there, Option.map_some, Option.map_some, Option.map_some,
        changes index element result found checked.symm]

/-- Each result of a walk comes from the element at its place. -/
theorem getElem?_of_inOrder {check : Nat → α → Except ε β} {list : List α} {position index : Nat}
    {results : List β} {result : β} (walked : inOrder check position list = .ok results)
    (found : results[index]? = some result) :
    ∃ element, list[index]? = some element ∧ check (position + index) element = .ok result := by
  have agree := inOrder_eq_ok_iff.mp walked index
  rw [found, Option.map_some] at agree
  exact Option.map_eq_some_iff.mp agree

/-- Each element of a walk has its result at its place. -/
theorem getElem?_results_of_inOrder {check : Nat → α → Except ε β} {list : List α}
    {position index : Nat} {results : List β} {element : α}
    (walked : inOrder check position list = .ok results) (found : list[index]? = some element) :
    ∃ result, results[index]? = some result ∧ check (position + index) element = .ok result := by
  have agree := inOrder_eq_ok_iff.mp walked index
  rw [found, Option.map_some, eq_comm] at agree
  obtain ⟨result, there, checked⟩ := Option.map_eq_some_iff.mp agree
  exact ⟨result, there, checked.symm⟩

/-- A walk succeeds exactly when every check does. -/
theorem exists_inOrder_iff {check : Nat → α → Except ε β} :
    ∀ {list : List α} {position : Nat},
      (∃ results, inOrder check position list = .ok results) ↔
        ∀ index element, list[index]? = some element →
          ∃ result, check (position + index) element = .ok result
  | [], position => by simp [inOrder]
  | first :: rest, position => by
      simp only [inOrder_cons_eq_ok_iff]
      constructor
      · rintro ⟨_, result, others, checked, walked, _⟩ index element found
        cases index with
        | zero =>
            cases found
            exact ⟨result, checked⟩
        | succ index =>
            have later :=
              exists_inOrder_iff.mp ⟨others, walked⟩ index element (by simpa using found)
            simpa [Nat.add_assoc, Nat.add_comm 1 index] using later
      · intro every
        obtain ⟨result, checked⟩ := every 0 first rfl
        obtain ⟨others, walked⟩ : ∃ others, inOrder check (position + 1) rest = .ok others := by
          apply exists_inOrder_iff.mpr
          intro index element found
          have later := every (index + 1) element (by simpa using found)
          simpa [Nat.add_assoc, Nat.add_comm 1 index] using later
        exact ⟨_, result, others, checked, walked, rfl⟩

/-- Where a check of the members says the same at every position, a walk succeeds exactly when all
members pass it. -/
theorem inOrder_eq_ok_iff_map {check : Nat → α → Except ε β} {passes : α → Prop} {result : α → β}
    {list : List α} {position : Nat} {results : List β}
    (checked : ∀ element ∈ list, ∀ place value,
      check place element = .ok value ↔ passes element ∧ value = result element) :
    inOrder check position list = .ok results ↔
      (∀ element ∈ list, passes element) ∧ results = list.map result := by
  induction list generalizing position results with
  | nil => simp [inOrder, eq_comm]
  | cons first rest hypothesis =>
      obtain ⟨firstChecked, restChecked⟩ := List.forall_mem_cons.mp checked
      simp only [inOrder_cons_eq_ok_iff, firstChecked, hypothesis restChecked,
        List.forall_mem_cons, List.map_cons]
      constructor
      · rintro ⟨value, others, ⟨passed, rfl⟩, ⟨restPassed, rfl⟩, rfl⟩
        exact ⟨⟨passed, restPassed⟩, rfl⟩
      · rintro ⟨⟨passed, restPassed⟩, rfl⟩
        exact ⟨_, _, ⟨passed, rfl⟩, ⟨restPassed, rfl⟩, rfl⟩

/-- A walk fails exactly with the error of the first check that fails. -/
theorem inOrder_eq_error_iff {check : Nat → α → Except ε β} {error : ε} :
    ∀ {list : List α} {position : Nat},
      inOrder check position list = .error error ↔
        ∃ index element, list[index]? = some element ∧
          check (position + index) element = .error error ∧
          ∀ earlier < index, ∀ other, list[earlier]? = some other →
            ∃ result, check (position + earlier) other = .ok result
  | [], position => by simp [inOrder]
  | first :: rest, position => by
      rw [inOrder, bind_eq_error_iff]
      constructor
      · rintro (failed | ⟨result, checked, walked⟩)
        · exact ⟨0, first, rfl, failed, by simp⟩
        · rcases bind_eq_error_iff.mp walked with restFailed | ⟨_, _, impossible⟩
          · obtain ⟨index, element, found, failed, before⟩ := inOrder_eq_error_iff.mp restFailed
            refine ⟨index + 1, element, by simpa using found, ?_, ?_⟩
            · simpa [Nat.add_assoc, Nat.add_comm 1 index] using failed
            · intro earlier less other otherFound
              cases earlier with
              | zero =>
                  simp only [List.getElem?_cons_zero, Option.some.injEq] at otherFound
                  subst otherFound
                  exact ⟨result, checked⟩
              | succ earlier =>
                  have := before earlier (by omega) other (by simpa using otherFound)
                  simpa [Nat.add_assoc, Nat.add_comm 1 earlier] using this
          · cases impossible
      · rintro ⟨index, element, found, failed, before⟩
        cases index with
        | zero =>
            simp only [List.getElem?_cons_zero, Option.some.injEq] at found
            subst found
            exact .inl failed
        | succ index =>
            obtain ⟨result, checked⟩ := before 0 (by omega) first rfl
            refine .inr ⟨result, checked, bind_eq_error_iff.mpr (.inl ?_)⟩
            apply inOrder_eq_error_iff.mpr
            refine ⟨index, element, by simpa using found, ?_, ?_⟩
            · simpa [Nat.add_assoc, Nat.add_comm 1 index] using failed
            · intro earlier less other otherFound
              have := before (earlier + 1) (by omega) other (by simpa using otherFound)
              simpa [Nat.add_assoc, Nat.add_comm 1 earlier] using this

/-- A walk has as many results as elements. -/
theorem length_of_inOrder {check : Nat → α → Except ε β} {list : List α} {position : Nat}
    {results : List β} (walked : inOrder check position list = .ok results) :
    results.length = list.length := by
  have agree := inOrder_eq_ok_iff.mp walked
  apply Nat.le_antisymm
  · have := agree list.length
    simpa [List.getElem?_eq_none_iff] using this.symm
  · have := agree results.length
    simpa [List.getElem?_eq_none_iff] using this

end Ram
