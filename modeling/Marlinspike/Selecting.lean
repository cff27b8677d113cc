import Mathlib.Data.List.Infix

/-!
Detections on log events: searches, which are tests of single fields, under a condition.
-/
namespace Marlinspike.Selecting

/-- The fields of an event, as they are written. -/
abbrev Event := String → Option String

inductive Test where
  /-- The field is one of the values. -/
  | oneOf (field : String) (values : List String)
  | oneOfPorts (field : String) (ports : List Nat)
  | startsWith (field : String) (beginnings : List String)
  | contains (field : String) (parts : List String)
  | present (field : String)
  | is (field value : String)
  /-- As `oneOf`, without a modifier. -/
  | isAny (field : String) (values : List String)
deriving DecidableEq

def Test.field : Test → String
  | oneOf field _ | oneOfPorts field _ | startsWith field _ | contains field _ | present field | is field _
  | isAny field _ => field

/-- What the test asks of the field's value. -/
def Test.accepts : Test → String → Bool
  | oneOf _ values, v | isAny _ values, v => values.contains v
  | oneOfPorts _ ports, v => ports.any fun port => toString port = v
  | startsWith _ beginnings, v => beginnings.any fun beginning => beginning.toList.isPrefixOf v.toList
  | contains _ parts, v => parts.any fun part => v.toList.tails.any part.toList.isPrefixOf
  | present _, _ => true
  | is _ value, v => value = v

def Test.selects (test : Test) (event : Event) : Bool := (event test.field).any test.accepts

/-- A named search: all of its tests. -/
structure Search where
  name : String
  tests : List Test
deriving DecidableEq

def Search.selects (search : Search) (event : Event) : Bool := search.tests.all (·.selects event)

inductive Condition where
  | search (name : String)
  | butNot (name filter : String)
  | either (name other : String)
deriving DecidableEq

def Condition.text : Condition → String
  | search name => name
  | butNot name filter => name ++ " and not " ++ filter
  | either name other => name ++ " or " ++ other

/-- The condition stands after the first searches, and before the others. -/
structure Detection where
  first : List Search
  condition : Condition
  later : List Search := []
deriving DecidableEq

def Detection.searches (detection : Detection) : List Search := detection.first ++ detection.later

/-- A search that is not there selects nothing. -/
def Detection.found (detection : Detection) (event : Event) (name : String) : Bool :=
  (detection.searches.find? (·.name = name)).any (·.selects event)

def Detection.selects (detection : Detection) (event : Event) : Bool :=
  match detection.condition with
  | .search name => detection.found event name
  | .butNot name filter => detection.found event name && !detection.found event filter
  | .either name other => detection.found event name || detection.found event other

section Tests
variable {event : Event} {field v : String}

theorem selects_oneOf {values : List String} (is : event field = some v) :
    (Test.oneOf field values).selects event = true ↔ v ∈ values := by
  simp [Test.selects, Test.field, Test.accepts, is]

theorem selects_startsWith {beginnings : List String} (is : event field = some v) :
    (Test.startsWith field beginnings).selects event = true ↔
      ∃ beginning ∈ beginnings, beginning.toList <+: v.toList := by
  simp [Test.selects, Test.field, Test.accepts, is]

theorem selects_contains {parts : List String} (is : event field = some v) :
    (Test.contains field parts).selects event = true ↔ ∃ part ∈ parts, part.toList <:+: v.toList := by
  have infix_iff (part : String) : (∃ t, t <:+ v.toList ∧ part.toList <+: t) ↔ part.toList <:+: v.toList := by
    rw [List.infix_iff_prefix_suffix]
    exact exists_congr fun t => and_comm
  simp [Test.selects, Test.field, Test.accepts, is, infix_iff]

end Tests

end Marlinspike.Selecting
