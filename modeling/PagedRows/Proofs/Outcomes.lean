import PagedRows.Fault

/-!
# Results with faults

What a computation that succeeded is made of: the parts of it succeeded too.
-/

namespace PagedRows

theorem ok_bind {ε α β : Type} (value : α) (next : α → Except ε β) :
    (Except.ok value >>= next) = next value :=
  rfl

theorem exists_of_bind_eq_ok {ε α β : Type} {first : Except ε α} {next : α → Except ε β}
    {result : β} (done : (first >>= next) = .ok result) :
    ∃ value, first = .ok value ∧ next value = .ok result := by
  cases first with
  | error fault => cases done
  | ok value => exact ⟨value, rfl, done⟩

theorem exists_of_map_eq_ok {ε α β : Type} {first : Except ε α} {change : α → β}
    {result : β} (done : first.map change = .ok result) :
    ∃ value, first = .ok value ∧ change value = result := by
  cases first with
  | error fault => cases done
  | ok value =>
      cases done
      exact ⟨value, rfl, rfl⟩

theorem map_map {ε α β γ : Type} (first : Except ε α) (change : α → β) (next : β → γ) :
    (first.map change).map next = first.map fun value => next (change value) := by
  cases first with
  | error fault => rfl
  | ok value => rfl

theorem toOption_map {ε α β : Type} (first : Except ε α) (change : α → β) :
    (first.map change).toOption = first.toOption.map change := by
  cases first with
  | error fault => rfl
  | ok value => rfl

theorem mapError_eq_ok_iff {ε δ α : Type} {first : Except ε α} {change : ε → δ} {value : α} :
    first.mapError change = .ok value ↔ first = .ok value := by
  cases first with
  | error fault =>
      constructor
      · intro impossible
        cases impossible
      · intro impossible
        cases impossible
  | ok found =>
      constructor
      · intro same
        cases same
        rfl
      · intro same
        cases same
        rfl

theorem exists_of_mapError_eq_error {ε δ α : Type} {first : Except ε α} {change : ε → δ}
    {fault : δ} (failed : first.mapError change = .error fault) :
    ∃ inner, first = .error inner ∧ change inner = fault := by
  cases first with
  | error inner =>
      cases failed
      exact ⟨inner, rfl, rfl⟩
  | ok value => cases failed

theorem mapM_eq_ok {α β : Type} {read : α → Except Fault β} {value : α → β}
    (items : List α) (each : ∀ item ∈ items, read item = .ok (value item)) :
    items.mapM read = .ok (items.map value) := by
  induction items with
  | nil => rfl
  | cons item items induction =>
      rw [List.mapM_cons, each item (by simp),
        induction fun other member => each other (by simp [member])]
      rfl

theorem mapM_eq_ok_iff {α β : Type} {read : α → Except Fault β} {items : List α}
    {values : List β} :
    items.mapM read = .ok values ↔ items.map read = values.map .ok := by
  induction items generalizing values with
  | nil =>
      cases values with
      | nil => exact iff_of_true rfl rfl
      | cons value values => exact iff_of_false nofun nofun
  | cons item items induction =>
      rw [List.mapM_cons, List.map_cons]
      constructor
      · intro done
        obtain ⟨first, head, done⟩ := exists_of_bind_eq_ok done
        obtain ⟨others, tail, done⟩ := exists_of_bind_eq_ok done
        cases done
        rw [head, induction.mp tail, List.map_cons]
      · intro same
        cases values with
        | nil => cases same
        | cons value values =>
            obtain ⟨head, tail⟩ := List.cons.inj same
            rw [head, induction.mpr tail]
            rfl

/-- The first item that fails is the one that is reported. -/
theorem mapM_eq_error_iff {α β : Type} {read : α → Except Fault β} {items : List α}
    {fault : Fault} :
    items.mapM read = .error fault ↔
      ∃ front item back, items = front ++ item :: back ∧
        (∀ earlier ∈ front, ∃ value, read earlier = .ok value) ∧
        read item = .error fault := by
  induction items with
  | nil => exact iff_of_false nofun (by simp)
  | cons item items induction =>
      rw [List.mapM_cons]
      constructor
      · intro failed
        cases head : read item with
        | error other =>
            rw [head] at failed
            cases failed
            exact ⟨[], item, items, rfl, nofun, head⟩
        | ok value =>
            rw [head, ok_bind] at failed
            cases tail : items.mapM read with
            | ok values =>
                rw [tail] at failed
                cases failed
            | error other =>
                rw [tail] at failed
                cases failed
                obtain ⟨front, refused, back, rfl, earlier, found⟩ := induction.mp tail
                refine ⟨item :: front, refused, back, rfl, ?_, found⟩
                exact List.forall_mem_cons.mpr ⟨⟨value, head⟩, earlier⟩
      · rintro ⟨front, refused, back, split, earlier, found⟩
        cases front with
        | nil =>
            obtain ⟨rfl, -⟩ := List.cons.inj split
            rw [found]
            rfl
        | cons first front =>
            obtain ⟨rfl, rfl⟩ := List.cons.inj split
            obtain ⟨⟨value, head⟩, earlier⟩ := List.forall_mem_cons.mp earlier
            have tail := induction.mpr ⟨front, refused, back, rfl, earlier, found⟩
            rw [head, tail]
            rfl

theorem length_of_mapM_eq_ok {α β : Type} {read : α → Except Fault β}
    {items : List α} {values : List β} (done : items.mapM read = .ok values) :
    values.length = items.length := by
  have same := congrArg List.length (mapM_eq_ok_iff.mp done)
  rw [List.length_map, List.length_map] at same
  exact same.symm

theorem exists_of_mem_mapM {α β : Type} {read : α → Except Fault β} {items : List α}
    {values : List β} (done : items.mapM read = .ok values) {value : β}
    (member : value ∈ values) : ∃ item ∈ items, read item = .ok value := by
  have among : Except.ok value ∈ items.map read := by
    rw [mapM_eq_ok_iff.mp done]
    exact List.mem_map_of_mem member
  exact List.mem_map.mp among

theorem exists_of_mapM_eq_error {α β : Type} {read : α → Except Fault β} {items : List α}
    {fault : Fault} (failed : items.mapM read = .error fault) :
    ∃ item ∈ items, read item = .error fault := by
  obtain ⟨front, item, back, rfl, -, found⟩ := mapM_eq_error_iff.mp failed
  exact ⟨item, List.mem_append_right front List.mem_cons_self, found⟩

end PagedRows
