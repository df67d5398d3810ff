import ShaderFamilies.ColorTable
import ShaderFamilies.LocationSlot
import ShaderFamilies.PassTables

/-!
# Location tables

The tables of all passes as one type, and the kinds of tables that there are.
A kind says what its table looks up.
-/

namespace ShaderFamilies

variable {m : Type → Type} [Monad m] {α β : Type}

inductive Table (α : Type)
  | color (table : ColorTable α)
  | shadow (table : ShadowTable α)
  | dof (table : DofTable α)
  | dofBlur (table : DofBlurTable α)
  | dofCoc (table : DofCocTable α)
  | blend (table : BlendTable α)
  | ssr (table : SsrTable α)
  | bloomSearch (table : BloomSearchTable α)
  | blur (table : BlurTable α)
  | cubemap (table : CubemapTable α)
  deriving DecidableEq

/-- Visits the entries of a table in order and keeps what the visits give. -/
def Table.traverse (visit : α → m β) : Table α → m (Table β)
  | .color table => return .color (← table.traverse visit)
  | .shadow table => return .shadow (← table.traverse visit)
  | .dof table => return .dof (← table.traverse visit)
  | .dofBlur table => return .dofBlur (← table.traverse visit)
  | .dofCoc table => return .dofCoc (← table.traverse visit)
  | .blend table => return .blend (← table.traverse visit)
  | .ssr table => return .ssr (← table.traverse visit)
  | .bloomSearch table => return .bloomSearch (← table.traverse visit)
  | .blur table => return .blur (← table.traverse visit)
  | .cubemap table => return .cubemap (← table.traverse visit)

/-- The kinds of tables.  A color table has a number of lights of each kind. -/
inductive TableKind
  | color (points directions : Nat)
  | shadow
  | dof
  | dofBlur
  | dofCoc
  | blend
  | ssr
  | bloomSearch
  | blur
  | cubemap
  deriving DecidableEq

def TableKind.slots : TableKind → Table Slot
  | .color points directions => .color (ColorTable.slots points directions)
  | .shadow => .shadow ShadowTable.slots
  | .dof => .dof DofTable.slots
  | .dofBlur => .dofBlur DofBlurTable.slots
  | .dofCoc => .dofCoc DofCocTable.slots
  | .blend => .blend BlendTable.slots
  | .ssr => .ssr SsrTable.slots
  | .bloomSearch => .bloomSearch BloomSearchTable.slots
  | .blur => .blur BlurTable.slots
  | .cubemap => .cubemap CubemapTable.slots

end ShaderFamilies
