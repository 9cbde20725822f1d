import CommandBook.Json.Printer
import CommandBook.OrderedMap

/-!
# Layouts of JSON

Texts of a value that differ in nothing but the gaps between their tokens and in what stands
between the quotes of a string. The two printers are layouts. A third one is what substitution
makes of the text of a value, so what holds of all layouts need not be proved three times.

What a reader makes of such a text is described by two functions on values: `mapTexts` changes
every text, and `merged` unites the members of one name as a reader does.

## Main statements

* `write_oneLine`, `write_indented` — the printers are layouts
* `merged_obj_of_nodup` — distinct names stay as they are
-/

namespace CommandBook.Json

open Decimal

/-! ## Values -/

mutual
/-- A value with each of its texts changed, names included. -/
def mapTexts (f : String → String) : Json → Json
  | .null => .null
  | .bool b => .bool b
  | .int n => .int n
  | .real x => .real x
  | .str s => .str (f s)
  | .arr items => .arr (mapItems f items)
  | .obj members => .obj (mapMembers f members)

def mapItems (f : String → String) : List Json → List Json
  | [] => []
  | v :: rest => mapTexts f v :: mapItems f rest

def mapMembers (f : String → String) : List (String × Json) → List (String × Json)
  | [] => []
  | (k, v) :: rest => (f k, mapTexts f v) :: mapMembers f rest
end

mutual
/-- A value whose objects hold each name once, at its first place and with its last value. -/
def merged : Json → Json
  | .null => .null
  | .bool b => .bool b
  | .int n => .int n
  | .real x => .real x
  | .str s => .str s
  | .arr items => .arr (mergedItems items)
  | .obj members => .obj (insertEntries [] (mergedMembers members))

def mergedItems : List Json → List Json
  | [] => []
  | v :: rest => merged v :: mergedItems rest

def mergedMembers : List (String × Json) → List (String × Json)
  | [] => []
  | (k, v) :: rest => (k, merged v) :: mergedMembers rest
end

mutual
/-- Whether all numbers of a value are integers that may be written and read. -/
def isIntegral : Json → Bool
  | .null | .bool _ | .str _ => true
  | .int n => fits n
  | .real _ => false
  | .arr items => areIntegral items
  | .obj members => haveIntegral members

def areIntegral : List Json → Bool
  | [] => true
  | v :: rest => isIntegral v && areIntegral rest

def haveIntegral : List (String × Json) → Bool
  | [] => true
  | (_, v) :: rest => isIntegral v && haveIntegral rest
end

mutual
@[simp] theorem mapTexts_id : ∀ v : Json, mapTexts id v = v
  | .null => rfl
  | .bool _ => rfl
  | .int _ => rfl
  | .real _ => rfl
  | .str _ => rfl
  | .arr items => by rw [mapTexts, mapItems_id items]
  | .obj members => by rw [mapTexts, mapMembers_id members]

theorem mapItems_id : ∀ items : List Json, mapItems id items = items
  | [] => rfl
  | v :: rest => by rw [mapItems, mapTexts_id v, mapItems_id rest]

theorem mapMembers_id : ∀ members : List (String × Json), mapMembers id members = members
  | [] => rfl
  | (k, v) :: rest => by rw [mapMembers, mapTexts_id v, mapMembers_id rest]; rfl
end

theorem keys_mergedMembers : ∀ members : List (String × Json),
    (mergedMembers members).map Prod.fst = members.map Prod.fst
  | [] => rfl
  | (k, v) :: rest => by
    rw [mergedMembers, List.map_cons, List.map_cons, keys_mergedMembers rest]

/-- Distinct names stay as they are. -/
theorem merged_obj_of_nodup {members : List (String × Json)}
    (h : (members.map Prod.fst).Nodup) : merged (.obj members) = .obj (mergedMembers members) := by
  rw [merged, insertEntries_eq_append]
  · rfl
  · rwa [List.nil_append, keys_mergedMembers]

/-! ## Layouts -/

/-- What stands between the quotes of a text, and the gaps in front of the first entry of a
collection, of the later ones and of the closing bracket, each by its level. -/
structure Layout where
  text : String → List Char
  first : Nat → List Char
  later : Nat → List Char
  last : Nat → List Char

namespace Layout
variable (L : Layout)

/-- A text with its quotes. -/
def quote (s : String) : List Char := '"' :: L.text s ++ ['"']

mutual
/-- A value at a level; an empty collection has no gaps. -/
def write (level : Nat) : Json → List Char
  | .null => ['n', 'u', 'l', 'l']
  | .bool true => ['t', 'r', 'u', 'e']
  | .bool false => ['f', 'a', 'l', 's', 'e']
  | .int n => integer n
  | .real x => (numberStyle.text x).toList
  | .str s => L.quote s
  | .arr [] => ['[', ']']
  | .arr (v :: rest) =>
    '[' :: L.first (level + 1) ++ write (level + 1) v ++ writeItems (level + 1) rest ++
      L.last level ++ [']']
  | .obj [] => ['\x7b', '\x7d']
  | .obj ((k, v) :: rest) =>
    '\x7b' :: L.first (level + 1) ++ L.quote k ++ ':' :: ' ' :: write (level + 1) v ++
      writeMembers (level + 1) rest ++ L.last level ++ ['\x7d']

/-- The items after the first. -/
def writeItems (level : Nat) : List Json → List Char
  | [] => []
  | v :: rest => ',' :: L.later level ++ write level v ++ writeItems level rest

/-- The members after the first. -/
def writeMembers (level : Nat) : List (String × Json) → List Char
  | [] => []
  | (k, v) :: rest =>
    ',' :: L.later level ++ L.quote k ++ ':' :: ' ' :: write level v ++ writeMembers level rest
end

end Layout

/-- All on one line. -/
def oneLine : Layout where
  text := fun s => s.toList.flatMap escape
  first := fun _ => []
  later := fun _ => [' ']
  last := fun _ => []

/-- One entry a line. -/
def indented : Layout where
  text := fun s => s.toList.flatMap escape
  first := newLine
  later := newLine
  last := newLine

mutual
theorem write_oneLine (level : Nat) : ∀ v : Json, oneLine.write level v = renderChars v
  | .null | .bool true | .bool false | .int _ | .real _ | .str _ => rfl
  | .arr [] => rfl
  | .arr (v :: rest) => by
    rw [Layout.write, renderChars, renderItems_cons (level + 1) v rest,
      write_oneLine (level + 1) v]
    simp [oneLine]
  | .obj [] => rfl
  | .obj ((k, v) :: rest) => by
    rw [Layout.write, renderChars, renderMembers_cons (level + 1) k v rest,
      write_oneLine (level + 1) v]
    simp [oneLine, Layout.quote, renderString]

theorem renderItems_cons (level : Nat) (v : Json) : ∀ rest : List Json,
    renderItems (v :: rest) = renderChars v ++ oneLine.writeItems level rest
  | [] => by rw [renderItems, Layout.writeItems, List.append_nil]
  | w :: rest => by
    rw [renderItems, Layout.writeItems, renderItems_cons level w rest, write_oneLine level w]
    · simp [oneLine]
    · simp

theorem renderMembers_cons (level : Nat) (k : String) (v : Json) :
    ∀ rest : List (String × Json), renderMembers ((k, v) :: rest) =
      renderString k ++ ':' :: ' ' :: renderChars v ++ oneLine.writeMembers level rest
  | [] => by rw [renderMembers, Layout.writeMembers, List.append_nil]
  | (k', w) :: rest => by
    rw [renderMembers, Layout.writeMembers, renderMembers_cons level k' w rest,
      write_oneLine level w]
    · simp [oneLine, Layout.quote, renderString]
    · simp
end

mutual
theorem write_indented (level : Nat) : ∀ v : Json, indented.write level v = indentedChars level v
  | .null | .bool true | .bool false | .int _ | .real _ | .str _ => rfl
  | .arr [] => rfl
  | .arr (v :: rest) => by
    rw [Layout.write, indentedChars, write_indented (level + 1) v,
      writeItems_indented (level + 1) rest]
    rfl
  | .obj [] => rfl
  | .obj ((k, v) :: rest) => by
    rw [Layout.write, indentedChars, write_indented (level + 1) v,
      writeMembers_indented (level + 1) rest]
    rfl

theorem writeItems_indented (level : Nat) : ∀ items : List Json,
    indented.writeItems level items = indentedItems level items
  | [] => rfl
  | v :: rest => by
    rw [Layout.writeItems, indentedItems, write_indented level v, writeItems_indented level rest]
    rfl

theorem writeMembers_indented (level : Nat) : ∀ members : List (String × Json),
    indented.writeMembers level members = indentedMembers level members
  | [] => rfl
  | (k, v) :: rest => by
    rw [Layout.writeMembers, indentedMembers, write_indented level v,
      writeMembers_indented level rest]
    rfl
end

end CommandBook.Json
