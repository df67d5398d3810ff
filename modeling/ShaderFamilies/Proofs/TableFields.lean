import ShaderFamilies.LocationTables

/-!
# The fields of a table

Every table is a list of fields, each under its path in the table: a field of a part
of the table has the name of the part before its own, and a light has its array and
its index.  A table is changed field by field, and the paths stay as they are.
-/

namespace ShaderFamilies

variable {α β γ : Type}

/-! ## Fields -/

/-- The fields of a part of a table, by their paths in the table. -/
def within (part : String) (fields : List (String × α)) : List (String × α) :=
  fields.map fun field => (part ++ "." ++ field.1, field.2)

/-- The fields of the elements of an array, from an index on. -/
def elementFields (array : String) (fieldsOf : γ → List (String × α)) :
    Nat → List γ → List (String × α)
  | _, [] => []
  | index, element :: rest =>
      within (arrayElement array index) (fieldsOf element) ++
        elementFields array fieldsOf (index + 1) rest

def PointLightTable.fields (table : PointLightTable α) : List (String × α) :=
  within "light" table.light.entries ++ table.entries

def DirLightTable.fields (table : DirLightTable α) : List (String × α) :=
  within "light" table.light.entries ++ table.entries

def ColorTable.fields (table : ColorTable α) : List (String × α) :=
  elementFields "point_lights" PointLightTable.fields 0 table.pointLights ++
    (elementFields "dir_lights" DirLightTable.fields 0 table.dirLights ++ table.entries)

def DofBlurTable.fields (table : DofBlurTable α) : List (String × α) :=
  within "dof" table.dof.entries ++ table.entries

def DofCocTable.fields (table : DofCocTable α) : List (String × α) :=
  within "dof" table.dof.entries

def Table.fields : Table α → List (String × α)
  | .color table => table.fields
  | .shadow table => table.entries
  | .dof table => table.entries
  | .dofBlur table => table.fields
  | .dofCoc table => table.fields
  | .blend table => table.entries
  | .ssr table => table.entries
  | .bloomSearch table => table.entries
  | .blur table => table.entries
  | .cubemap table => table.entries

/-! ## Values -/

/-- The entries in the order in which they are visited. -/
def LightTable.values (table : LightTable α) : List α :=
  table.entries.map (·.2)

def PointLightTable.values (table : PointLightTable α) : List α :=
  table.light.values ++ table.entries.map (·.2)

def DirLightTable.values (table : DirLightTable α) : List α :=
  table.light.values ++ table.entries.map (·.2)

def ColorTable.values (table : ColorTable α) : List α :=
  table.pointLights.flatMap PointLightTable.values ++
    (table.dirLights.flatMap DirLightTable.values ++ table.entries.map (·.2))

theorem map_snd_elementFields {fieldsOf : γ → List (String × α)} {valuesOf : γ → List α}
    (hvalues : ∀ element, (fieldsOf element).map (·.2) = valuesOf element) (array : String)
    (index : Nat) (elements : List γ) :
    (elementFields array fieldsOf index elements).map (·.2) = elements.flatMap valuesOf := by
  induction elements generalizing index with
  | nil => rfl
  | cons element rest ih =>
      have hfirst : (within (arrayElement array index) (fieldsOf element)).map (·.2) =
          valuesOf element :=
        (List.map_map ..).trans (hvalues element)
      rw [elementFields, List.map_append, hfirst, ih, List.flatMap_cons]

theorem ColorTable.map_snd_fields (table : ColorTable α) :
    table.fields.map (·.2) = table.values := by
  have hpoint : ∀ light : PointLightTable α, light.fields.map (·.2) = light.values :=
    fun _ => rfl
  have hdirection : ∀ light : DirLightTable α, light.fields.map (·.2) = light.values :=
    fun _ => rfl
  unfold fields values
  rw [List.map_append, List.map_append, map_snd_elementFields hpoint,
    map_snd_elementFields hdirection]

/-! ## Changed entries -/

/-- The table with each entry replaced by what is held for it. -/
def LightTable.map (view : α → β) (table : LightTable α) : LightTable β :=
  Id.run (table.traverse fun entry => pure (view entry))

def PointLightTable.map (view : α → β) (table : PointLightTable α) : PointLightTable β :=
  Id.run (table.traverse fun entry => pure (view entry))

def DirLightTable.map (view : α → β) (table : DirLightTable α) : DirLightTable β :=
  Id.run (table.traverse fun entry => pure (view entry))

def ColorTable.map (view : α → β) (table : ColorTable α) : ColorTable β :=
  Id.run (table.traverse fun entry => pure (view entry))

def DofTable.map (view : α → β) (table : DofTable α) : DofTable β :=
  Id.run (table.traverse fun entry => pure (view entry))

def Table.map (view : α → β) (table : Table α) : Table β :=
  Id.run (table.traverse fun entry => pure (view entry))

theorem ColorTable.map_eq (view : α → β) (table : ColorTable α) :
    table.map view =
      { table.map view with
        pointLights := table.pointLights.map (PointLightTable.map view)
        dirLights := table.dirLights.map (DirLightTable.map view) } := by
  simp only [map, traverse, Id.run_bind, Id.run_pure, List.idRun_mapM]
  rfl

theorem ColorTable.pointLights_map (view : α → β) (table : ColorTable α) :
    (table.map view).pointLights = table.pointLights.map (PointLightTable.map view) := by
  rw [map_eq]

theorem ColorTable.dirLights_map (view : α → β) (table : ColorTable α) :
    (table.map view).dirLights = table.dirLights.map (DirLightTable.map view) := by
  rw [map_eq]

theorem ColorTable.values_map (view : α → β) (table : ColorTable α) :
    (table.map view).values = table.values.map view := by
  unfold ColorTable.values
  rw [ColorTable.pointLights_map, ColorTable.dirLights_map, List.map_append,
    List.map_append, List.map_flatMap, List.map_flatMap, List.flatMap_map, List.flatMap_map]
  rfl

theorem Table.map_id (table : Table α) : table.map id = table := by
  cases table with
  | color table =>
      have hpoint : (PointLightTable.map id : PointLightTable α → PointLightTable α) = id :=
        rfl
      have hdirection : (DirLightTable.map id : DirLightTable α → DirLightTable α) = id :=
        rfl
      change Table.color (table.map id) = _
      rw [ColorTable.map_eq, hpoint, hdirection, List.map_id, List.map_id]
      rfl
  | shadow | dof | dofBlur | dofCoc | blend | ssr | bloomSearch | blur | cubemap => rfl

theorem elementFields_map {δ : Type} {fieldsOf : γ → List (String × α)}
    {changedFields : δ → List (String × β)} {view : α → β} {change : γ → δ}
    (hchange : ∀ element, changedFields (change element) =
      (fieldsOf element).map fun field => (field.1, view field.2))
    (array : String) (index : Nat) (elements : List γ) :
    elementFields array changedFields index (elements.map change) =
      (elementFields array fieldsOf index elements).map fun field =>
        (field.1, view field.2) := by
  induction elements generalizing index with
  | nil => rfl
  | cons element rest ih =>
      rw [List.map_cons, elementFields, elementFields, hchange, ih, List.map_append]
      simp only [within, List.map_map, Function.comp_def]

theorem Table.fields_map (view : α → β) (table : Table α) :
    (table.map view).fields = table.fields.map fun field => (field.1, view field.2) := by
  cases table with
  | color table =>
      have hpoint : ∀ light : PointLightTable α, (light.map view).fields =
          light.fields.map fun field => (field.1, view field.2) := fun _ => rfl
      have hdirection : ∀ light : DirLightTable α, (light.map view).fields =
          light.fields.map fun field => (field.1, view field.2) := fun _ => rfl
      change (table.map view).fields = table.fields.map _
      unfold ColorTable.fields
      rw [ColorTable.pointLights_map, ColorTable.dirLights_map, elementFields_map hpoint,
        elementFields_map hdirection, List.map_append, List.map_append]
      rfl
  | shadow | dof | dofBlur | dofCoc | blend | ssr | bloomSearch | blur | cubemap => rfl

end ShaderFamilies
