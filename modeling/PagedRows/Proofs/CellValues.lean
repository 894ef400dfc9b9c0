import PagedRows.Cell.Json
import PagedRows.Position
import PagedRows.Proofs.Outcomes

/-!
# Values that stand for cells

Null, numbers and strings stand for cells, and so does an object that has a blob of bytes
and nothing else.  Whatever other value is decoded is refused as wrong use, and so is a row
in which there is such a value, with the fault of the first one.
-/

namespace PagedRows

namespace Json

/-- Which values stand for which cells. -/
inductive Denotes : Json → Cell → Prop where
  | null : Denotes .null .null
  | integer {number : Int} (fits : -2 ^ 63 ≤ number ∧ number < 2 ^ 63) :
      Denotes (.integer number) (.integer (.ofInt number))
  /-- An integer beyond 64 bits with sign stands for the nearest float. -/
  | wide {number : Int} (wide : ¬(-2 ^ 63 ≤ number ∧ number < 2 ^ 63)) :
      Denotes (.integer number) (.float (.ofInt number))
  | float {number : Double} {finite : number.isFinite = true} :
      Denotes (.float number finite) (.float number)
  | string {text : String} : Denotes (.string text) (.string text)
  | blob {bytes : List UInt8} :
      Denotes (.object [("blob", .array (bytes.map fun byte => .ofNat byte.toNat))])
        (.blob bytes)

/-- An integer between 0 and 255. -/
def IsByte (value : Json) : Prop :=
  ∃ number : Nat, number < 256 ∧ value = .ofNat number

/-- The values that stand for some cell. -/
inductive IsCell : Json → Prop where
  | null : IsCell .null
  | integer {number : Int} : IsCell (.integer number)
  | float {number : Double} {finite : number.isFinite = true} : IsCell (.float number finite)
  | string {text : String} : IsCell (.string text)
  | blob {items : List Json} (bytes : ∀ item ∈ items, item.IsByte) :
      IsCell (.object [("blob", .array items)])

private theorem exists_bytes {items : List Json} (each : ∀ item ∈ items, item.IsByte) :
    ∃ bytes : List UInt8, items = bytes.map fun byte => .ofNat byte.toNat := by
  induction items with
  | nil => exact ⟨[], rfl⟩
  | cons item items induction =>
      obtain ⟨⟨number, small, rfl⟩, others⟩ := List.forall_mem_cons.mp each
      obtain ⟨bytes, rfl⟩ := induction others
      refine ⟨UInt8.ofNat number :: bytes, ?_⟩
      rw [List.map_cons, UInt8.toNat_ofNat_of_lt' small]

private theorem isCell_iff {value : Json} : value.IsCell ↔ ∃ cell, value.Denotes cell := by
  constructor
  · intro stands
    cases stands with
    | null => exact ⟨_, .null⟩
    | @integer number =>
        by_cases fits : -2 ^ 63 ≤ number ∧ number < 2 ^ 63
        · exact ⟨_, .integer fits⟩
        · exact ⟨_, .wide fits⟩
    | float => exact ⟨_, .float⟩
    | string => exact ⟨_, .string⟩
    | blob each =>
        obtain ⟨bytes, rfl⟩ := exists_bytes each
        exact ⟨_, .blob⟩
  · rintro ⟨cell, denotes⟩
    cases denotes with
    | null => exact .null
    | integer => exact .integer
    | wide => exact .integer
    | float => exact .float
    | string => exact .string
    | blob =>
        apply IsCell.blob
        intro item member
        obtain ⟨byte, -, rfl⟩ := List.mem_map.mp member
        exact ⟨byte.toNat, byte.toNat_lt, rfl⟩

end Json

namespace Cell

private theorem byteOfJson?_eq_some_iff {value : Json} {byte : UInt8} :
    byteOfJson? value = some byte ↔ value = .ofNat byte.toNat := by
  constructor
  · intro read
    rw [byteOfJson?.eq_def] at read
    split at read
    next number =>
      split at read
      next inside =>
        cases read
        have below : number.toNat < 256 := by omega
        rw [UInt8.toNat_ofNat_of_lt' below, Json.ofNat, Int.toNat_of_nonneg inside.1]
      next => cases read
    next => cases read
  · rintro rfl
    have inside : (0 : Int) ≤ byte.toNat ∧ (byte.toNat : Int) < 256 := by
      have below := byte.toNat_lt
      omega
    rw [Json.ofNat, byteOfJson?, if_pos inside, Int.toNat_natCast, UInt8.ofNat_toNat]

private theorem mapM_byteOfJson?_eq_some_iff {items : List Json} {bytes : List UInt8} :
    items.mapM byteOfJson? = some bytes ↔
      items = bytes.map fun byte => .ofNat byte.toNat := by
  induction items generalizing bytes with
  | nil =>
      cases bytes with
      | nil => exact iff_of_true rfl rfl
      | cons byte bytes => exact iff_of_false nofun nofun
  | cons item items induction =>
      rw [List.mapM_cons]
      constructor
      · intro read
        obtain ⟨byte, first, read⟩ := Option.bind_eq_some_iff.mp read
        obtain ⟨others, rest, read⟩ := Option.bind_eq_some_iff.mp read
        cases read
        rw [byteOfJson?_eq_some_iff.mp first, induction.mp rest, List.map_cons]
      · intro written
        cases bytes with
        | nil => cases written
        | cons byte bytes =>
            obtain ⟨first, rest⟩ := List.cons.inj written
            rw [byteOfJson?_eq_some_iff.mpr first, induction.mpr rest]
            rfl

theorem ofJson_eq_ok_iff {value : Json} {cell : Cell} :
    ofJson value = .ok cell ↔ value.Denotes cell := by
  constructor
  · intro done
    rw [ofJson.eq_def] at done
    split at done
    next =>
      cases done
      exact .null
    next =>
      split at done
      next fits =>
        cases done
        exact .integer fits
      next wide =>
        cases done
        exact .wide wide
    next =>
      cases done
      exact .float
    next =>
      cases done
      exact .string
    next key items =>
      split at done
      next bytes read =>
        split at done
        next same =>
          cases done
          rw [same, mapM_byteOfJson?_eq_some_iff.mp read]
          exact .blob
        next => cases done
      next => cases done
    next => cases done
  · intro denotes
    cases denotes with
    | null => rfl
    | integer fits => exact if_pos fits
    | wide wide => exact if_neg wide
    | float => rfl
    | string => rfl
    | blob =>
        rw [ofJson, mapM_byteOfJson?_eq_some_iff.mpr rfl]
        rfl

theorem exists_ofJson_iff {value : Json} :
    (∃ cell, ofJson value = .ok cell) ↔ value.IsCell := by
  simp only [ofJson_eq_ok_iff, Json.isCell_iff]

theorem kind_of_ofJson_eq_error {value : Json} {fault : Fault}
    (refused : ofJson value = .error fault) : fault.kind = .usage := by
  rw [ofJson.eq_def] at refused
  split at refused
  · cases refused
  · split at refused <;> cases refused
  · cases refused
  · cases refused
  · split at refused
    · split at refused
      · cases refused
      · cases refused
        rfl
    · cases refused
      rfl
  · cases refused
    rfl

theorem rowOfJson_eq_ok_iff {value : Json} {cells : List Cell} :
    rowOfJson value = .ok cells ↔
      ∃ items, value = .array items ∧ items.map ofJson = cells.map .ok := by
  constructor
  · intro done
    rw [rowOfJson.eq_def] at done
    split at done
    next items => exact ⟨items, rfl, mapM_eq_ok_iff.mp done⟩
    next => cases done
  · rintro ⟨items, rfl, each⟩
    exact mapM_eq_ok_iff.mpr each

theorem exists_rowOfJson_iff {value : Json} :
    (∃ cells, rowOfJson value = .ok cells) ↔
      ∃ items, value = .array items ∧ ∀ item ∈ items, item.IsCell := by
  constructor
  · rintro ⟨cells, done⟩
    obtain ⟨items, rfl, each⟩ := rowOfJson_eq_ok_iff.mp done
    refine ⟨items, rfl, ?_⟩
    intro item member
    have among : ofJson item ∈ cells.map Except.ok := each ▸ List.mem_map_of_mem member
    obtain ⟨cell, -, found⟩ := List.mem_map.mp among
    exact exists_ofJson_iff.mp ⟨cell, found.symm⟩
  · rintro ⟨items, rfl, each⟩
    cases result : rowOfJson (.array items) with
    | ok cells => exact ⟨cells, rfl⟩
    | error fault =>
        obtain ⟨item, member, refused⟩ := exists_of_mapM_eq_error result
        obtain ⟨cell, accepted⟩ := exists_ofJson_iff.mpr (each item member)
        rw [refused] at accepted
        cases accepted

theorem kind_of_rowOfJson_eq_error {value : Json} {fault : Fault}
    (refused : rowOfJson value = .error fault) : fault.kind = .usage := by
  rw [rowOfJson.eq_def] at refused
  split at refused
  · obtain ⟨item, -, refused⟩ := exists_of_mapM_eq_error refused
    exact kind_of_ofJson_eq_error refused
  · cases refused
    rfl

end Cell

end PagedRows
