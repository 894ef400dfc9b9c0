import PagedRows.Fault
import PagedRows.Json.Printer

/-!
# Reports of faults

A fault is reported as a JSON object to other programs, and in lines of text to
people.
-/

namespace PagedRows.Fault

/-- A member that is left out when it has no value. -/
def optionalMember (key : String) (value? : Option Json) : List (String × Json) :=
  (value?.map fun value => (key, value)).toList

def toJson (fault : Fault) : Json :=
  Json.ofMembers [("error", Json.ofMembers
    ([("kind", .string fault.kind.name), ("message", .string fault.summary)] ++
      optionalMember "hint" (fault.hint?.map .string) ++
      optionalMember "row" (fault.row?.map .ofNat) ++
      optionalMember "column" (fault.column?.map .ofNat) ++
      optionalMember "causes" (fault.cause?.map fun cause => .array [.string cause])))]

def lines (fault : Fault) : List String :=
  ["error: " ++ fault.summary] ++
    (fault.hint?.map ("hint: " ++ ·)).toList ++
    (fault.row?.map fun row => s!"row: {row}").toList ++
    (fault.column?.map fun column => s!"column: {column}").toList ++
    (fault.cause?.map ("caused by: " ++ ·)).toList

end PagedRows.Fault
