import Marlinspike.Findings.Identity

/-! How the plugins read the values of a report, and what they take from Python beside its texts. -/
namespace Marlinspike.Plugins
open Marlinspike.Reports (Library)
open Marlinspike.Findings.Identity (sorted sorted_eq_iff)

/-- Floats as exact numbers: reading, writing, and rounding to some digits. -/
structure Numbers where
  /-- `float(s)` and `int(s)`. -/
  parse : String → Option Rat
  parseInt : String → Option Int
  /-- `str(x)`. -/
  write : Rat → String
  /-- The digits after the point that are written. -/
  fixed : Nat → Rat → String
  round : Nat → Rat → Rat

/-- `sorted(set(names))`. -/
def sortedSet (names : List String) : List String := sorted names.dedup

theorem mem_sortedSet {name : String} {names : List String} : name ∈ sortedSet names ↔ name ∈ names := by
  unfold sortedSet sorted
  rw [List.mem_mergeSort, List.mem_dedup]

theorem sortedSet_congr {names names' : List String} (same : ∀ name, name ∈ names ↔ name ∈ names') :
    sortedSet names = sortedSet names' := by
  refine sorted_eq_iff.mpr ((List.perm_ext_iff_of_nodup (List.nodup_dedup _) (List.nodup_dedup _)).mpr ?_)
  intro name
  rw [List.mem_dedup, List.mem_dedup]
  exact same name

/-- `_append_unique`. -/
def appendUnique (target values : List String) : List String :=
  values.foldl (fun target value => if value ≠ "" ∧ value ∉ target then target ++ [value] else target) target

def commaList (values : List String) : String := ", ".intercalate values

/-- The code points of `\s`. -/
def spaceCodes : List Nat :=
  [9, 10, 11, 12, 13, 28, 29, 30, 31, 32, 133, 160, 5760, 8192, 8193, 8194, 8195, 8196, 8197, 8198, 8199, 8200, 8201,
    8202, 8232, 8233, 8239, 8287, 12288]

def isSpace (c : Char) : Bool := spaceCodes.contains c.toNat

/-- A report: its top-level fields. -/
abbrev Report := PyDict String Json

end Marlinspike.Plugins

namespace Marlinspike.Json
open Marlinspike.Reports (Library)
open Marlinspike.Plugins (Numbers)

/-- `v.get(key)`, of an object. -/
def get (v : Json) (key : String) : Json :=
  match v with
  | .obj items => (items.lookup key).getD .null
  | _ => .null

def isObj : Json → Bool
  | .obj _ => true
  | _ => false

/-- The items that a loop takes up or `list` lists, if there are any to take. -/
def iterate : Json → Option (List Json)
  | .arr items => some items
  | .obj items => some (items.map fun item => .str item.1)
  | .str s => some (s.toList.map fun c => .str (String.ofList [c]))
  | other => if other.truthy then none else some []

/-- `_listify`. -/
def listify : Json → List Json
  | .null => []
  | .arr items => items
  | other => [other]

/-- The objects of `_listify`. -/
def objects (v : Json) : List Json := v.listify.filter isObj

/-- `str(v)`. -/
def toText (library : Library) : Json → String
  | .str s => s
  | other => library.str other

/-- `str(v or "")`. -/
def text (library : Library) (v : Json) : String := if v.truthy then v.toText library else ""

theorem text_str (library : Library) (s : String) : (str s).text library = s := by
  by_cases blank : s = "" <;> simp [text, truthy, toText, blank]

/-- `str(v or "").strip()`. -/
def stripped (library : Library) (v : Json) : String := library.strip (v.text library)

/-- The texts of the values of a list that are true. -/
def texts (library : Library) (v : Json) : List String := (v.listify.filter truthy).map (toText library)

/-- `float(v)`, if it does not raise. -/
def toRat (numbers : Numbers) : Json → Option Rat
  | .bool b => some (if b then 1 else 0)
  | .int i => some i
  | .float r => some r
  | .str s => numbers.parse s
  | _ => none

/-- `int(v)`, if it does not raise. -/
def toInt (numbers : Numbers) : Json → Option Int
  | .bool b => some (if b then 1 else 0)
  | .int i => some i
  | .float r => some (if 0 ≤ r then r.floor else -(-r).floor)
  | .str s => numbers.parseInt s
  | _ => none

def ofTexts (texts : List String) : Json := .arr (texts.map .str)

end Marlinspike.Json
