import ShaderFamilies.Proofs.DirectiveLines
import ShaderFamilies.SlotNames

/-!
# Names of array elements

An element of a uniform array is named by the array, its index in brackets and,
where the elements are structures, a field.  Where the name of the array has no
bracket, all of these can be read off the name of the element.
-/

namespace ShaderFamilies

theorem bracket_not_mem_index (index : Nat) : ']' ∉ (toString index).toList := by
  intro hbracket
  exact absurd (isDigit_of_mem_toString hbracket) (by decide)

/-- The name of an element without its array: the index in brackets, and what
comes after them. -/
def elementSuffix (index : Nat) (tail : List Char) : List Char :=
  '[' :: ((toString index).toList ++ ']' :: tail)

theorem toList_structElement (array : String) (index : Nat) (field : String) :
    (structElement array index field).toList =
      array.toList ++ elementSuffix index ('.' :: field.toList) := by
  simp [structElement, elementSuffix]

theorem toList_arrayElement (array : String) (index : Nat) :
    (arrayElement array index).toList = array.toList ++ elementSuffix index [] := by
  simp [arrayElement, elementSuffix]

section

variable {array other : String} (harray : '[' ∉ array.toList) (hother : '[' ∉ other.toList)
  {index number : Nat}
include harray hother

theorem append_elementSuffix_inj {tail rest : List Char} :
    array.toList ++ elementSuffix index tail = other.toList ++ elementSuffix number rest ↔
      array = other ∧ index = number ∧ tail = rest := by
  constructor
  · intro heq
    rcases eq_of_append_cons harray hother heq with ⟨hname, hsuffix⟩
    rcases eq_of_append_cons (bracket_not_mem_index index) (bracket_not_mem_index number)
      hsuffix with ⟨hindex, htail⟩
    exact ⟨String.toList_inj.mp hname,
      toString_nat_inj.mp (String.toList_inj.mp hindex), htail⟩
  · intro heq
    rcases heq with ⟨rfl, rfl, rfl⟩
    rfl

theorem structElement_inj {field part : String} :
    structElement array index field = structElement other number part ↔
      array = other ∧ index = number ∧ field = part := by
  rw [← String.toList_inj, toList_structElement, toList_structElement,
    append_elementSuffix_inj harray hother, List.cons_inj_right, String.toList_inj]

theorem arrayElement_inj :
    arrayElement array index = arrayElement other number ↔ array = other ∧ index = number := by
  rw [← String.toList_inj, toList_arrayElement, toList_arrayElement,
    append_elementSuffix_inj harray hother, eq_self, and_true]

theorem structElement_ne_arrayElement {field : String} :
    structElement array index field ≠ arrayElement other number := by
  intro heq
  rw [← String.toList_inj, toList_structElement, toList_arrayElement,
    append_elementSuffix_inj harray hother] at heq
  exact List.cons_ne_nil _ _ heq.2.2

end

/-- The name of an element tells its array, its index and its field, and whether it has
a field.  The field may be any text. -/
theorem elementNames_unambiguous {array other : String} (harray : '[' ∉ array.toList)
    (hother : '[' ∉ other.toList) (index number : Nat) (field part : String) :
    (structElement array index field = structElement other number part ↔
      array = other ∧ index = number ∧ field = part) ∧
    (arrayElement array index = arrayElement other number ↔
      array = other ∧ index = number) ∧
    structElement array index field ≠ arrayElement other number := by
  refine ⟨?_, ?_, ?_⟩
  · exact structElement_inj harray hother
  · exact arrayElement_inj harray hother
  · exact structElement_ne_arrayElement harray hother

/-- One and eleven begin alike, and a field may look like the end of a name. -/
theorem elementNames_unambiguous_one_eleven :
    '[' ∉ "dirLights".toList ∧
    structElement "dirLights" 1 "1].kc" ≠ structElement "dirLights" 11 "kc" ∧
    arrayElement "dirLights" 1 ≠ arrayElement "dirLights" 11 ∧
    structElement "dirLights" 1 "" ≠ arrayElement "dirLights" 1 := by
  have harray : '[' ∉ "dirLights".toList := by decide
  rcases elementNames_unambiguous harray harray 1 11 "1].kc" "kc" with ⟨hfields, hitems, _⟩
  rcases elementNames_unambiguous harray harray 1 1 "" "" with ⟨_, _, hkinds⟩
  refine ⟨harray, ?_, ?_, hkinds⟩
  · intro heq
    exact absurd (hfields.mp heq).2.1 (by decide)
  · intro heq
    exact absurd (hitems.mp heq).2 (by decide)

/-- Arrays whose names have brackets can share the name of an element. -/
example : structElement "lights[0].maps" 1 "far" = structElement "lights" 0 "maps[1].far" := by
  decide +kernel

/-! ## The array and the index of an element -/

/-- A name of an element with an index of an array, or of a part of it. -/
def IsElement (name array : String) (index : Nat) : Prop :=
  ∃ tail, name.toList = array.toList ++ elementSuffix index tail

theorem isElement_structElement (array : String) (index : Nat) (field : String) :
    IsElement (structElement array index field) array index :=
  ⟨_, toList_structElement array index field⟩

theorem isElement_arrayElement (array : String) (index : Nat) :
    IsElement (arrayElement array index) array index :=
  ⟨_, toList_arrayElement array index⟩

theorem IsElement.unique {name array other : String} {index number : Nat}
    (harray : '[' ∉ array.toList) (hother : '[' ∉ other.toList)
    (hfirst : IsElement name array index) (hsecond : IsElement name other number) :
    array = other ∧ index = number := by
  rcases hfirst with ⟨tail, htail⟩
  rcases hsecond with ⟨rest, hrest⟩
  rw [htail, append_elementSuffix_inj harray hother] at hrest
  exact ⟨hrest.1, hrest.2.1⟩

theorem IsElement.bracket_mem {name array : String} {index : Nat}
    (helement : IsElement name array index) : '[' ∈ name.toList := by
  rcases helement with ⟨tail, htail⟩
  rw [htail]
  exact List.mem_append_right _ List.mem_cons_self

end ShaderFamilies
