import PagedRows.Proofs.JsonText
import PagedRows.Proofs.Outcomes

/-!
# Values that are read

Whatever a reader gives back is readable, and so it is read again from its own text.
-/

namespace PagedRows

namespace Json

theorem mem_insertMember {members : List (String × Json)} {key : String} {value : Json}
    {member : String × Json} (among : member ∈ insertMember key value members) :
    member = (key, value) ∨ member ∈ members := by
  induction members with
  | nil => exact .inl (List.mem_singleton.mp among)
  | cons held members induction =>
      rw [insertMember] at among
      split at among
      · exact List.mem_cons.mp among
      split at among
      · rcases List.mem_cons.mp among with here | later
        · exact .inl here
        · exact .inr (List.mem_cons_of_mem _ later)
      · rcases List.mem_cons.mp among with here | later
        · exact .inr (List.mem_cons.mpr (.inl here))
        · rcases induction later with new | old
          · exact .inl new
          · exact .inr (List.mem_cons_of_mem _ old)

private theorem lt_of_not_lt_of_ne {key other : String} (notBefore : ¬key < other)
    (different : key ≠ other) : other < key := by
  apply String.not_le.mp
  intro below
  exact different (String.le_antisymm below (String.not_lt.mp notBefore))

private theorem pairwise_insertMember {members : List (String × Json)} {key : String} {value : Json}
    (ordered : members.Pairwise fun member later => member.1 < later.1) :
    (insertMember key value members).Pairwise fun member later => member.1 < later.1 := by
  induction members with
  | nil => exact List.pairwise_singleton _ _
  | cons held members induction =>
      obtain ⟨after, rest⟩ := List.pairwise_cons.mp ordered
      rw [insertMember]
      split
      next before =>
        refine List.pairwise_cons.mpr ⟨?_, ordered⟩
        intro later among
        rcases List.mem_cons.mp among with rfl | among
        · exact before
        · exact String.lt_trans before (after later among)
      next notBefore =>
        split
        next same =>
          subst same
          exact List.pairwise_cons.mpr ⟨after, rest⟩
        next different =>
          refine List.pairwise_cons.mpr ⟨?_, induction rest⟩
          intro later among
          rcases mem_insertMember among with rfl | among
          · exact lt_of_not_lt_of_ne notBefore different
          · exact after later among

theorem readable_ofMembers {depth : Nat} {members : List (String × Json)}
    (each : ∀ member ∈ members, Readable depth member.2) :
    Readable (depth + 1) (ofMembers members) := by
  have kept (held members : List (String × Json))
      (ordered : held.Pairwise fun member later => member.1 < later.1)
      (heldReadable : ∀ member ∈ held, Readable depth member.2)
      (each : ∀ member ∈ members, Readable depth member.2) :
      Readable (depth + 1) (.object
        (members.foldl (fun held member => insertMember member.1 member.2 held) held)) := by
    induction members generalizing held with
    | nil => exact .object ordered heldReadable
    | cons member members induction =>
        rw [List.foldl_cons]
        apply induction
        · exact pairwise_insertMember ordered
        · intro other among
          rcases mem_insertMember among with rfl | among
          · exact each member List.mem_cons_self
          · exact heldReadable other among
        · intro other among
          exact each other (List.mem_cons_of_mem _ among)
  exact kept [] members .nil nofun each

/-- The members of an object in the order of their keys, each key once. -/
def sortedMembers (members : List (String × Json)) : List (String × Json) :=
  members.foldl (fun held (key, value) => insertMember key value held) []

theorem lookup_cons (member : String × Json) (members : List (String × Json))
    (key : String) :
    (member :: members).lookup key =
      if key = member.1 then some member.2 else members.lookup key := by
  obtain ⟨other, value⟩ := member
  rw [List.lookup_cons]
  by_cases same : key = other
  · rw [beq_iff_eq.mpr same, if_pos same]
  · rw [beq_false_of_ne same, if_neg same]

private theorem lookup_insertMember (key other : String) (value : Json)
    (members : List (String × Json)) :
    (insertMember key value members).lookup other =
      if other = key then some value else members.lookup other := by
  induction members with
  | nil => rw [insertMember, lookup_cons]
  | cons held members induction =>
      rw [insertMember]
      split
      · rw [lookup_cons]
      split
      next same =>
        rw [lookup_cons, lookup_cons, ← same]
        split <;> rfl
      next different =>
        rw [lookup_cons, lookup_cons, induction]
        by_cases here : other = held.1
        · have elsewhere : other ≠ key := fun same => different (same ▸ here)
          rw [if_pos here, if_neg elsewhere, if_pos here]
        · rw [if_neg here, if_neg here]

theorem lookup_sortedMembers (members : List (String × Json)) (key : String) :
    (sortedMembers members).lookup key = members.reverse.lookup key := by
  have kept (held : List (String × Json)) :
      (members.foldl (fun held member => insertMember member.1 member.2 held) held).lookup
          key =
        (members.reverse ++ held).lookup key := by
    induction members generalizing held with
    | nil => rfl
    | cons member members induction =>
        rw [List.foldl_cons, induction, List.reverse_cons, List.append_assoc,
          List.singleton_append, List.lookup_append, List.lookup_append,
          lookup_insertMember, lookup_cons]
  exact (kept []).trans (by rw [List.append_nil])

theorem lookup_map_eq_some_iff {α : Type} {name : α → String} {value : α → Json}
    (distinct : ∀ item other, name item = name other → item = other) (items : List α)
    {key : String} {held : Json} :
    (items.map fun item => (name item, value item)).lookup key = some held ↔
      ∃ item ∈ items, key = name item ∧ held = value item := by
  induction items with
  | nil => simp
  | cons item items induction =>
      rw [List.map_cons, lookup_cons]
      split
      next same =>
        subst same
        constructor
        · intro found
          exact ⟨item, List.mem_cons_self, rfl, (Option.some.inj found).symm⟩
        · rintro ⟨other, -, named, rfl⟩
          rw [distinct item other named]
      next different =>
        rw [induction]
        constructor
        · rintro ⟨other, among, named, valued⟩
          exact ⟨other, List.mem_cons_of_mem _ among, named, valued⟩
        · rintro ⟨other, among, named, valued⟩
          rcases List.mem_cons.mp among with rfl | among
          · exact (different named).elim
          · exact ⟨other, among, named, valued⟩

section Items

variable {α : Type} {item : Read α} {close : Char} {property : α → Prop}

private theorem forall_of_readItems
    (each : ∀ text value rest, item text = .ok (value, rest) → property value)
    {bound : Nat} {taken values : List α} {text rest : List Char}
    (read : readItems item close bound taken text = .ok (values, rest))
    (held : ∀ value ∈ taken, property value) : ∀ value ∈ values, property value := by
  induction bound generalizing taken text with
  | zero => cases read
  | succ bound induction =>
      rw [readItems] at read
      cases first : item text with
      | error flaw =>
          rw [first] at read
          cases read
      | ok result =>
          obtain ⟨value, after⟩ := result
          have more : ∀ other ∈ value :: taken, property other := by
            intro other among
            rcases List.mem_cons.mp among with rfl | among
            · exact each text other after first
            · exact held other among
          rw [first] at read
          simp only at read
          split at read
          · cases read
          split at read
          · exact induction read more
          split at read
          · cases read
            intro other among
            exact more other (List.mem_reverse.mp among)
          · cases read

private theorem forall_of_readUntil
    (each : ∀ text value rest, item text = .ok (value, rest) → property value)
    {values : List α} {text rest : List Char}
    (read : readUntil item close text = .ok (values, rest)) :
    ∀ value ∈ values, property value := by
  rw [readUntil] at read
  split at read
  · cases read
  split at read
  · cases read
    intro value member
    cases member
  · apply forall_of_readItems each read
    intro value member
    cases member

end Items

theorem readable_of_floatValue {depth : Nat} {negative : Bool} {decimal : Decimal}
    {value : Json} (read : floatValue negative decimal = .ok value) :
    Readable depth value := by
  rw [floatValue] at read
  split at read
  · cases read
    exact .float
  · cases read

private theorem readable_of_integerValue {depth : Nat} {negative : Bool} {magnitude : Nat}
    {value : Json} (read : integerValue negative magnitude = .ok value) :
    Readable depth value := by
  rw [integerValue] at read
  generalize (if negative = true then -(magnitude : Int) else magnitude) = signed at read
  split at read
  next within =>
    cases read
    exact .integer within.2.1 within.2.2
  next => exact readable_of_floatValue read

private theorem readable_of_readMagnitude {depth : Nat} {negative : Bool} {text rest : List Char}
    {value : Json} (read : readMagnitude negative text = .ok (value, rest)) :
    Readable depth value := by
  rw [readMagnitude] at read
  obtain ⟨⟨whole, afterWhole⟩, -, read⟩ := exists_of_bind_eq_ok read
  obtain ⟨⟨fraction?, afterFraction⟩, -, read⟩ := exists_of_bind_eq_ok read
  obtain ⟨⟨exponent?, afterExponent⟩, -, read⟩ := exists_of_bind_eq_ok read
  simp only at read
  split at read
  next =>
    obtain ⟨number, integer, same⟩ := exists_of_bind_eq_ok read
    cases same
    exact readable_of_integerValue integer
  next =>
    obtain ⟨number, float, same⟩ := exists_of_bind_eq_ok read
    cases same
    exact readable_of_floatValue float

theorem readable_of_readNumber {depth : Nat} {text rest : List Char} {value : Json}
    (read : readNumber text = .ok (value, rest)) : Readable depth value := by
  rw [readNumber.eq_def] at read
  split at read
  · exact readable_of_readMagnitude read
  · exact readable_of_readMagnitude read

private theorem exists_of_readMember {item : Read Json} {text rest : List Char}
    {member : String × Json} (read : readMember item text = .ok (member, rest)) :
    ∃ before after, item before = .ok (member.2, after) := by
  rw [readMember] at read
  split at read
  · obtain ⟨⟨key, afterKey⟩, -, read⟩ := exists_of_bind_eq_ok read
    simp only at read
    split at read
    next before _ =>
      obtain ⟨⟨held, after⟩, value, same⟩ := exists_of_bind_eq_ok read
      cases same
      exact ⟨before, after, value⟩
    next => cases read
  · cases read

theorem readable_of_readValue {depth : Nat} {text rest : List Char} {value : Json}
    (read : readValue depth text = .ok (value, rest)) : Readable depth value := by
  -- The recursion is on the depth, which falls inside arrays and objects.
  rw [readValue.eq_def] at read
  split at read
  next =>
    cases read
    exact .null
  next =>
    cases read
    exact .bool
  next =>
    cases read
    exact .bool
  next =>
    obtain ⟨⟨string, after⟩, -, same⟩ := exists_of_map_eq_ok read
    cases same
    exact .string
  next =>
    split at read
    next => cases read
    next depth =>
      obtain ⟨⟨items, after⟩, array, same⟩ := exists_of_map_eq_ok read
      cases same
      apply Readable.array
      refine forall_of_readUntil (fun before item after read => ?_) array
      exact readable_of_readValue read
  next =>
    split at read
    next => cases read
    next depth =>
      obtain ⟨⟨members, after⟩, object, same⟩ := exists_of_map_eq_ok read
      cases same
      apply readable_ofMembers
      refine forall_of_readUntil (fun text member after read => ?_) object
      obtain ⟨before, after, read⟩ := exists_of_readMember read
      exact readable_of_readValue read
  next => exact readable_of_readNumber read
termination_by depth

theorem readable_of_read {text : List Char} {value : Json} (accepted : read text = .ok value) :
    Readable depthLimit value := by
  rw [read] at accepted
  obtain ⟨⟨held, rest⟩, taken, accepted⟩ := exists_of_bind_eq_ok accepted
  simp only at accepted
  split at accepted
  · cases accepted
    exact readable_of_readValue taken
  · cases accepted

end Json

end PagedRows
